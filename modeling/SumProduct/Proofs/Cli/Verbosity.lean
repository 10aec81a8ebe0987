import Mathlib.Tactic.SplitIfs
import SumProduct.Cli.Report

/-!
# Verbosity only filters the log

To ask for more detail changes nothing that a command does, only how much of the log is shown.
Reading the arguments carries the count along and never looks at it
(`readArguments_louder`), so that flags in front of the arguments come to the same command with a
higher count (`ofArguments_replicate`). And in a report the count is only the measure of which
entries are shown (`Request.report_withVerbosity`).
-/

namespace SumProduct.Cli

/-! ### Commands with a higher count -/

/-- The request with more detail asked for `n` more times. -/
def Request.louder (n : Nat) (r : Request) : Request :=
  { r with verbosity := min (r.verbosity + n) highestVerbosity }

/-- The command with more detail asked for `n` more times. -/
def Command.louder (n : Nat) : Command → Command
  | .run request => .run (request.louder n)
  | .help => .help
  | .version => .version
  | .misuse => .misuse

/-- What the arguments have led to, with more detail asked for `n` more times. -/
def Progress.louder (n : Nat) : Progress → Progress
  | .going request awaitsPath => .going (request.louder n) awaitsPath
  | .settled command => .settled (command.louder n)

/-- How many times more detail is asked for by a command; by one that has no log, not at all. -/
def Command.verbosity : Command → Nat
  | .run request => request.verbosity
  | .help | .version | .misuse => 0

namespace Request

variable (n : Nat) (r : Request)

@[simp] theorem louder_moreVerbose : (r.louder n).moreVerbose = r.moreVerbose.louder n := by
  simp only [louder, moreVerbose, mk.injEq, true_and]
  omega

@[simp] theorem louder_withStrip : (r.louder n).withStrip = r.withStrip.map (louder n) := by
  cases h : r.strip <;> simp [withStrip, louder, h]

@[simp] theorem louder_awaitFile : (r.louder n).awaitFile = r.awaitFile.louder n := by
  cases h : r.file <;> simp [awaitFile, louder, h, Progress.louder, Command.louder]

@[simp] theorem louder_withFile (path : List Char) :
    (r.louder n).withFile path = (r.withFile path).louder n := by
  cases h : r.file <;> simp [withFile, louder, h, Progress.louder, Command.louder]

@[simp] theorem louder_withExpression (expression : List Char) :
    (r.louder n).withExpression expression = (r.withExpression expression).louder n := rfl

/-! ### Reading arguments does not look at the count -/

theorem readFlags_louder (flags : List Char) :
    (r.louder n).readFlags flags = (r.readFlags flags).louder n := by
  induction flags generalizing r with
  | nil => rfl
  | cons c rest ih =>
    simp only [readFlags, louder_withStrip, louder_moreVerbose, louder_awaitFile, louder_withFile,
      ih]
    split_ifs
    · cases r.withStrip with
      | none => rfl
      | some r => exact ih r
    · rfl
    · rfl
    · rfl
    · split <;> rfl
    · rfl

theorem readLong_louder (name : String) (attached : Option (List Char)) :
    (r.louder n).readLong name attached = (r.readLong name attached).louder n := by
  unfold readLong
  split
  · exact r.louder_awaitFile n
  · exact r.louder_withFile n _
  · rw [louder_withStrip]
    cases r.withStrip <;> rfl
  all_goals simp [Progress.louder, Command.louder]

theorem readArgument_louder (arg : List Char) :
    (r.louder n).readArgument arg = (r.readArgument arg).louder n := by
  unfold readArgument
  split
  · dsimp only
    split <;> exact r.readLong_louder n _ _
  · exact r.readFlags_louder n _
  · rfl

end Request

/-- **Reading arguments** carries the count along. -/
theorem readArguments_louder (n : Nat) (r : Request) (awaitsPath : Bool) (args : List String) :
    readArguments (r.louder n) awaitsPath args = (readArguments r awaitsPath args).louder n := by
  induction args generalizing r awaitsPath with
  | nil => cases awaitsPath <;> rfl
  | cons arg args ih =>
    simp only [readArguments]
    split_ifs
    · rfl
    · exact ih { r with file := some arg } false
    · rfl
    · rw [r.readArgument_louder n]
      cases r.readArgument arg.toList with
      | settled command => rfl
      | going r awaitsPath => exact ih r awaitsPath

/-- Flags in front come to a higher count. -/
theorem readArguments_replicate (n : Nat) (r : Request) (h : r.verbosity ≤ highestVerbosity)
    (args : List String) :
    readArguments r false (List.replicate n "-v" ++ args) =
      readArguments (r.louder n) false args := by
  induction n generalizing r with
  | zero =>
    rw [Request.louder, Nat.add_zero, Nat.min_eq_left h]
    rfl
  | succ n ih =>
    have hstep : readArguments r false ("-v" :: (List.replicate n "-v" ++ args)) =
        readArguments r.moreVerbose false (List.replicate n "-v" ++ args) := rfl
    have hlouder : r.moreVerbose.louder n = r.louder (n + 1) := by
      simp only [Request.moreVerbose, Request.louder, Request.mk.injEq, true_and]
      omega
    rw [List.replicate_succ, List.cons_append, hstep, ih r.moreVerbose (Nat.min_le_right _ _),
      hlouder]

/-- **Flags in front of the arguments** come to the same command, with a higher count. -/
theorem ofArguments_replicate (n : Nat) (args : List String) :
    Command.ofArguments (List.replicate n "-v" ++ args) = (Command.ofArguments args).louder n := by
  rw [Command.ofArguments, readArguments_replicate n .empty (Nat.zero_le _), readArguments_louder]
  rfl

/-! ### Reports do not differ but in what is shown -/

/-- The report with those entries of the log only that are shown for a count. -/
def Report.shownFor (verbosity : Nat) (r : Report) : Report :=
  { r with log := r.log.filter (Entry.isShown verbosity) }

/-- Who sees less sees what is left of what others see. -/
theorem filter_isShown {v w : Nat} (h : v ≤ w) (entries : List Entry) :
    (entries.filter (Entry.isShown w)).filter (Entry.isShown v) =
      entries.filter (Entry.isShown v) := by
  rw [List.filter_filter]
  refine List.filter_congr fun e _ => ?_
  cases hv : e.isShown v with
  | false => rfl
  | true => rw [Entry.isShown_mono h hv]; rfl

/-- The request with another count. -/
def Request.withVerbosity (v : Nat) (r : Request) : Request := { r with verbosity := v }

section

variable {v w : Nat} (h : v ≤ w) (r : Request)

include h

theorem Request.reportOn_withVerbosity (announce : Bool) (entries : List Entry)
    (trials : List Trial) :
    (r.withVerbosity v).reportOn announce entries trials =
      ((r.withVerbosity w).reportOn announce entries trials).shownFor v := by
  simp only [reportOn, withVerbosity, Report.shownFor, filter_isShown h]

theorem Request.reportOnAll_withVerbosity (expressions : List String) :
    (r.withVerbosity v).reportOnAll expressions =
      ((r.withVerbosity w).reportOnAll expressions).shownFor v := by
  unfold reportOnAll
  split
  · exact r.reportOn_withVerbosity h _ _ _
  · exact r.reportOn_withVerbosity h _ _ _

/-- **A report with a lower count** is one with a higher count, but that less is shown. -/
theorem Request.report_withVerbosity (read : String → Except ReadFailure String) :
    (r.withVerbosity v).report read = ((r.withVerbosity w).report read).shownFor v := by
  simp only [report]
  cases hfile : r.file with
  | none => simpa [withVerbosity, hfile] using r.reportOnAll_withVerbosity h r.expressions
  | some path =>
    simp only [withVerbosity, hfile]
    cases read path with
    | error failure => rfl
    | ok contents => exact r.reportOnAll_withVerbosity h (r.expressions ++ expressionsIn contents)

end

/-! ### Flags in front of the arguments -/

/-- With more flags in front of the arguments the report is the same, but that more is shown. -/
theorem report_replicate {n m : Nat} (h : n ≤ m) (args : List String)
    (read : String → Except ReadFailure String) :
    (Command.ofArguments (List.replicate n "-v" ++ args)).report read =
      ((Command.ofArguments (List.replicate m "-v" ++ args)).report read).shownFor
        (Command.ofArguments (List.replicate n "-v" ++ args)).verbosity := by
  rw [ofArguments_replicate, ofArguments_replicate]
  cases Command.ofArguments args with
  | help | version | misuse => rfl
  | run request =>
    have hle : min (request.verbosity + n) highestVerbosity ≤
        min (request.verbosity + m) highestVerbosity := by omega
    exact request.report_withVerbosity hle read

/-- **Verbosity only filters the log**: with more flags in front of the arguments the program
prints the same, and ends with the same code and the same complaint, whatever the arguments and
files are. Its log with fewer flags is the one with more, without the entries that are not shown
for its own count. The flags are counted up to the highest count, and there the count stays. -/
theorem verbosity_only_filters_log (read : String → Except ReadFailure String) (args : List String)
    {n m : Nat} (h : n ≤ m) :
    let command k := Command.ofArguments (List.replicate k "-v" ++ args)
    let report k := (command k).report read
    (report n).output = (report m).output ∧ (report n).code = (report m).code ∧
      (report n).complaint = (report m).complaint ∧
      (report n).log = (report m).log.filter (Entry.isShown (command n).verbosity) ∧
      ∀ request, Command.ofArguments args = .run request →
        (command n).verbosity = min (request.verbosity + n) highestVerbosity := by
  intro command report
  have hreport : report n = (report m).shownFor (command n).verbosity :=
    report_replicate h args read
  refine ⟨?_, ?_, ?_, ?_, ?_⟩
  · rw [hreport, Report.shownFor]
  · rw [hreport, Report.shownFor]
  · rw [hreport, Report.shownFor]
  · rw [hreport, Report.shownFor]
  · intro request hrequest
    have hcommand : command n = (Command.ofArguments args).louder n := ofArguments_replicate n args
    rw [hcommand, hrequest]
    rfl

theorem verbosity_only_filters_log_past_highest :
    let report k := (Command.ofArguments (List.replicate k "-v" ++ ["1+"])).report
      fun _ => .error .missing
    1 ≤ 256 ∧ (report 256).output = "Error: Unexpected end of input at position 2\n" ∧
      (report 256).log.filter (Entry.isShown 1) =
        [⟨.info, "evaluation failed", [("expression", "1+")]⟩] := by
  obtain ⟨houtput, -, -, hlog, -⟩ :=
    verbosity_only_filters_log (fun _ => .error .missing) ["1+"] (n := 1) (m := 256) (by decide)
  exact ⟨by decide, houtput.symm, hlog.symm⟩

end SumProduct.Cli
