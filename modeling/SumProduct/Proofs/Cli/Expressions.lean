import SumProduct.Proofs.Cli.Verbosity
import SumProduct.Proofs.Text.Lines

/-!
# Expressions stand alone

It makes no difference whether an expression is an argument or a line of a file, nor what comes
before and after it. A report is one on a list of expressions (`Request.report_of_expressions`),
and a listing in a file gives the same list as arguments do (`report_argumentsWithFile`). The report
on two lists, one after the other, is made of the reports on each (`reportOn_append`): nothing is
carried from one expression to the next.

Texts are listed one a line, so that those are left out which have the end of a line in them, or
half of it at their end; and blank ones, which count as expressions among the arguments, but not in
a file.
-/

namespace SumProduct.Cli

/-! ### The expressions of a request -/

/-- The expressions to evaluate: those given as arguments and those in the file, if that can be
read. -/
def Request.expressionsWith (r : Request) (read : String → Except ReadFailure String) :
    Except ReadFailure (List String) :=
  match r.file with
  | none => .ok r.expressions
  | some path => (read path).map fun contents => r.expressions ++ expressionsIn contents

variable {read : String → Except ReadFailure String} {expressions : List String} {r : Request}

theorem Request.report_of_expressions (h : r.expressionsWith read = .ok expressions) :
    r.report read = r.reportOnAll expressions := by
  rcases r with ⟨given, file | path, strip, verbosity⟩
  · obtain rfl := Except.ok.inj h
    rfl
  · simp only [expressionsWith] at h
    simp only [report]
    cases hread : read path with
    | error failure =>
      rw [hread] at h
      cases h
    | ok contents =>
      rw [hread] at h
      obtain rfl := Except.ok.inj h
      rfl

/-- Only if there is no expression, samples are evaluated. -/
theorem Request.reportOnAll_of_ne_nil (h : expressions ≠ []) :
    r.reportOnAll expressions = r.reportOn false [] (expressions.map (Trial.of r.strip)) := by
  rw [reportOnAll, if_neg]
  rwa [List.isEmpty_iff]

/-! ### Expressions in a file -/

/-- The expressions in a file are those that it lists. -/
theorem expressionsIn_of_listing {contents : String}
    (h : Listing contents.toList (expressions.map String.toList)) :
    expressionsIn contents = expressions := by
  have hofList : String.ofList ∘ String.toList = id := funext fun s => s.ofList_toList
  rw [expressionsIn, h.filter_linesOf, List.map_map, hofList, List.map_id]

/-- A listing is read as further expressions. -/
theorem Request.expressionsWith_listing {path contents : String} {listed : List String}
    (hfile : r.file = some path) (hread : read path = .ok contents)
    (h : Listing contents.toList (listed.map String.toList)) :
    r.expressionsWith read = .ok (r.expressions ++ listed) := by
  simp only [expressionsWith, hfile, hread]
  rw [← expressionsIn_of_listing h]
  rfl

/-! ### Command lines -/

/-- Flags in front of the arguments lead to a request with nothing in it but them. -/
theorem ofArguments_flags (strip : Bool) (verbosity : Nat) (args : List String) :
    Command.ofArguments
        ((if strip then ["-s"] else []) ++ (List.replicate verbosity "-v" ++ args)) =
      readArguments ⟨[], none, strip, min verbosity highestVerbosity⟩ false args := by
  have hstrip : Command.ofArguments
        ((if strip then ["-s"] else []) ++ (List.replicate verbosity "-v" ++ args)) =
      readArguments { Request.empty with strip := strip } false
        (List.replicate verbosity "-v" ++ args) := by
    cases strip <;> rfl
  rw [hstrip, readArguments_replicate _ _ (Nat.zero_le _), Request.louder]
  simp only [Request.empty, Nat.zero_add]

/-- The arguments to evaluate expressions: flags, and the expressions behind two dashes. -/
def argumentsFor (strip : Bool) (verbosity : Nat) (expressions : List String) : List String :=
  (if strip then ["-s"] else []) ++ (List.replicate verbosity "-v" ++ "--" :: expressions)

theorem ofArguments_argumentsFor (strip : Bool) (verbosity : Nat) (expressions : List String) :
    Command.ofArguments (argumentsFor strip verbosity expressions) =
      .run ⟨expressions, none, strip, min verbosity highestVerbosity⟩ := by
  rw [argumentsFor, ofArguments_flags]
  rfl

/-- The argument behind the file option is the path of the file, if it does not look like an
option itself. -/
theorem readArguments_file {path : String} (hfile : r.file = none)
    (hpath : looksLikeOption path.toList = false) (args : List String) :
    readArguments r false ("-f" :: path :: args) =
      readArguments { r with file := some path } false args := by
  have hoption : readArguments r false ("-f" :: path :: args) =
      readArguments r true (path :: args) := by
    rcases r with ⟨expressions, _ | _, strip, verbosity⟩
    · rfl
    · cases hfile
  rw [hoption, readArguments, if_pos rfl, hpath, if_neg Bool.false_ne_true]

/-- The arguments to evaluate expressions and those in a file: flags, the file option with the
path, and the expressions behind two dashes. -/
def argumentsWithFile (strip : Bool) (verbosity : Nat) (path : String)
    (expressions : List String) : List String :=
  (if strip then ["-s"] else []) ++
    (List.replicate verbosity "-v" ++ "-f" :: path :: "--" :: expressions)

theorem ofArguments_argumentsWithFile {path : String} (h : looksLikeOption path.toList = false)
    (strip : Bool) (verbosity : Nat) (expressions : List String) :
    Command.ofArguments (argumentsWithFile strip verbosity path expressions) =
      .run ⟨expressions, some path, strip, min verbosity highestVerbosity⟩ := by
  rw [argumentsWithFile, ofArguments_flags, readArguments_file rfl h]
  rfl

/-! ### A listing in the place of arguments -/

/-- A command line that names a file with a listing gives the report that it gives with the lines
listed as further arguments. -/
theorem report_of_listing {path contents : String} {given listed args : List String} {strip : Bool}
    {verbosity : Nat} (hread : read path = .ok contents)
    (hlisting : Listing contents.toList (listed.map String.toList))
    (hargs : Command.ofArguments args =
      .run ⟨given, some path, strip, min verbosity highestVerbosity⟩) :
    (Command.ofArguments args).report read =
      (Command.ofArguments (argumentsFor strip verbosity (given ++ listed))).report read := by
  have hgiven : Request.expressionsWith
      ⟨given, some path, strip, min verbosity highestVerbosity⟩ read = .ok (given ++ listed) :=
    Request.expressionsWith_listing rfl hread hlisting
  rw [hargs, ofArguments_argumentsFor]
  exact Request.report_of_expressions hgiven

/-- **A file in the place of arguments**: the file option with any path that does not look like an
option. -/
theorem report_argumentsWithFile {path contents : String}
    (hpath : looksLikeOption path.toList = false) (hread : read path = .ok contents)
    {listed : List String} (hlisting : Listing contents.toList (listed.map String.toList))
    (strip : Bool) (verbosity : Nat) (given : List String) :
    (Command.ofArguments (argumentsWithFile strip verbosity path given)).report read =
      (Command.ofArguments (argumentsFor strip verbosity (given ++ listed))).report read :=
  report_of_listing hread hlisting (ofArguments_argumentsWithFile hpath strip verbosity given)

/-! ### One list after another -/

/-- The code of a report is zero exactly if no trial is a failure. -/
theorem Request.code_reportOn_eq_zero_iff (r : Request) (announce : Bool) (entries : List Entry)
    (trials : List Trial) :
    (r.reportOn announce entries trials).code = 0 ↔ ∀ t ∈ trials, t.isFailure = false := by
  have hany : trials.any Trial.isFailure = false ↔ ∀ t ∈ trials, t.isFailure = false := by
    simp only [List.any_eq_false, Bool.not_eq_true]
  rw [← hany, reportOn]
  cases trials.any Trial.isFailure <;> simp

/-- The report on two lists of expressions is made of those on each. -/
theorem reportOn_append (r : Request) (first second : List Trial) :
    let report := r.reportOn false []
    (report (first ++ second)).output = (report first).output ++ (report second).output ∧
      (report (first ++ second)).log = (report first).log ++ (report second).log ∧
      ((report (first ++ second)).code = 0 ↔
        (report first).code = 0 ∧ (report second).code = 0) := by
  intro report
  refine ⟨?_, ?_, ?_⟩
  · simp only [report, Request.reportOn, List.map_append, String.join_append]
  · simp only [report, Request.reportOn, List.flatMap_append, List.nil_append, List.filter_append]
  · simp only [report, Request.code_reportOn_eq_zero_iff, List.forall_mem_append]

/-- The report on expressions as arguments depends on nothing but on them and on the flags. -/
theorem report_argumentsFor (h : expressions ≠ []) (strip : Bool) (verbosity : Nat) :
    (Command.ofArguments (argumentsFor strip verbosity expressions)).report read =
      (Request.empty.withVerbosity (min verbosity highestVerbosity)).reportOn false []
        (expressions.map (Trial.of strip)) := by
  rw [ofArguments_argumentsFor]
  exact Request.reportOnAll_of_ne_nil h

/-- **Expressions stand alone**: a command line that names a file with a listing gives the report
that it would give with the lines listed as further arguments, with the same flags; and the report
on one list of expressions and another behind it is made of the reports on each. -/
theorem expressions_stand_alone (read : String → Except ReadFailure String) (strip : Bool)
    (verbosity : Nat) :
    let run expressions :=
      (Command.ofArguments (argumentsFor strip verbosity expressions)).report read
    (∀ (path contents : String) (given listed args : List String), read path = .ok contents →
      Listing contents.toList (listed.map String.toList) →
      Command.ofArguments args =
        .run ⟨given, some path, strip, min verbosity highestVerbosity⟩ →
      (Command.ofArguments args).report read = run (given ++ listed)) ∧
    ∀ first second : List String, first ≠ [] → second ≠ [] →
      (run (first ++ second)).output = (run first).output ++ (run second).output ∧
      (run (first ++ second)).log = (run first).log ++ (run second).log ∧
      ((run (first ++ second)).code = 0 ↔ (run first).code = 0 ∧ (run second).code = 0) := by
  intro run
  constructor
  · intro path contents given listed args hread hlisting hargs
    exact report_of_listing hread hlisting hargs
  · intro first second hfirst hsecond
    have hboth : first ++ second ≠ [] := by simp [hfirst]
    simp only [run, report_argumentsFor hfirst, report_argumentsFor hsecond,
      report_argumentsFor hboth, List.map_append]
    exact reportOn_append _ _ _

theorem expressions_stand_alone_in_listing :
    let read path := if path = "list" then .ok "\t\r\n2*3\r\n \n(1" else .error .missing
    let run expressions := (Command.ofArguments (argumentsFor true 1 expressions)).report read
    (Command.ofArguments ["7", "-sv", "-flist"]).report read = run ["7", "2*3", "(1"] ∧
      (run ["7", "2*3", "(1"]).output = (run ["7"]).output ++ (run ["2*3", "(1"]).output := by
  intro read run
  have hrest : Listing ([' '] ++ (LineEnd.feed.text ++ "(1".toList)) ["(1".toList] :=
    .blankLine .feed (by decide) (by decide) (.last ⟨by decide, by decide, by decide⟩)
  have hlines : Listing ("2*3".toList ++ (LineEnd.returnFeed.text ++ " \n(1".toList))
      ["2*3".toList, "(1".toList] :=
    .line .returnFeed ⟨by decide, by decide, by decide⟩ hrest
  have hlisting : Listing (['\t'] ++ (LineEnd.returnFeed.text ++ "2*3\r\n \n(1".toList))
      ["2*3".toList, "(1".toList] :=
    .blankLine .returnFeed (by decide) (by decide) hlines
  obtain ⟨hlisted, happend⟩ := expressions_stand_alone read true 1
  have hboth := happend ["7"] ["2*3", "(1"] (List.cons_ne_nil _ _) (List.cons_ne_nil _ _)
  have hargs : Command.ofArguments ["7", "-sv", "-flist"] =
      .run ⟨["7"], some "list", true, min 1 highestVerbosity⟩ := by decide
  exact ⟨hlisted "list" _ ["7"] ["2*3", "(1"] _ rfl hlisting hargs, hboth.1⟩

end SumProduct.Cli
