import Mathlib.Data.List.Forall2
import SumProduct.Proofs.Cli.Expressions
import SumProduct.Proofs.Decimal.Printing
import SumProduct.Proofs.Faults.Messages

/-!
# One line for each expression

Whatever the expressions are, line ends in them included, the output has one line for each, in
their order, and the line tells by its beginning whether the evaluation came to a value. The exit
code is zero exactly if all did (`one_line_for_each_expression`).

Of an expression only those characters get into the output that the fault names, if it is one.
So the lines stay whole because no fault names a blank. The text of a value has nothing but digits,
a point, a letter or two and signs in it.
-/

namespace SumProduct

/-! ### Printed numbers -/

theorem isOneLine_of_literal {text : List Char} (h : text.all isLiteralChar = true) :
    IsOneLine text :=
  isOneLine_of_not_blank fun c hc =>
    Literal.isBlank_of_isLiteralChar (List.all_eq_true.1 h c hc)

namespace Decimal

theorem isOneLine_integerText (n : Nat) : IsOneLine (integerText n) :=
  isOneLine_of_digits (List.all_eq_true.1 (all_isDigit_integerText n))

theorem isOneLine_exponentText (exponent : Int) : IsOneLine (exponentText exponent) := by
  cases exponent with
  | ofNat n => exact isOneLine_integerText n
  | negSucc n =>
    show IsOneLine (['-'] ++ integerText (n + 1))
    rw [isOneLine_append]
    exact ⟨by decide, isOneLine_integerText _⟩

theorem isOneLine_scientificText (d : Decimal) : IsOneLine d.scientificText := by
  obtain ⟨first, others, htext⟩ := List.exists_cons_of_ne_nil (integerText_ne_nil d.digits)
  have hdigits := isOneLine_integerText d.digits
  rw [htext] at hdigits
  have hsplit : IsOneLine ([first] ++ others) := hdigits
  rw [isOneLine_append] at hsplit
  obtain ⟨hfirst, hothers⟩ := hsplit
  have hexponent := isOneLine_exponentText (d.exponent + others.length)
  simp only [scientificText, htext]
  cases others with
  | nil =>
    show IsOneLine ([first] ++ (['e'] ++ exponentText _))
    rw [isOneLine_append, isOneLine_append]
    exact ⟨hfirst, by decide, hexponent⟩
  | cons c rest =>
    show IsOneLine ([first] ++ (['.'] ++ (c :: rest) ++ (['e'] ++ exponentText _)))
    simp only [isOneLine_append]
    exact ⟨hfirst, ⟨by decide, hothers⟩, by decide, hexponent⟩

end Decimal

theorem Magnitude.isOneLine_text (m : Magnitude) : IsOneLine m.text := by
  rw [text]
  split
  · exact isOneLine_of_literal m.shortest.isValid_positionalText.1
  · exact m.shortest.isOneLine_scientificText

theorem Binary64.isOneLine_text (v : Binary64) : IsOneLine v.text.toList := by
  cases v with
  | nan => decide
  | infinite sign => cases sign <;> decide
  | finite sign m =>
    rw [text, String.toList_ofList]
    split
    · show IsOneLine (['-'] ++ m.text)
      rw [isOneLine_append]
      exact ⟨by decide, m.isOneLine_text⟩
    · exact m.isOneLine_text

namespace Cli

/-! ### Lines one after the other -/

/-- In lines with their ends there are as many line feeds as lines. -/
theorem count_feed_join {lines : List String} (h : ∀ line ∈ lines, IsOneLine line.toList) :
    (String.join (lines.map (· ++ "\n"))).toList.count '\n' = lines.length := by
  induction lines with
  | nil => rfl
  | cons line lines ih =>
    rw [List.forall_mem_cons] at h
    rw [List.map_cons, String.join_cons, String.toList_append, String.toList_append,
      List.count_append, List.count_append, ih h.2, List.count_eq_zero_of_not_mem h.1.1]
    simp [Nat.add_comm]

/-- In lines with their ends there is no carriage return. -/
theorem return_not_mem_join {lines : List String} (h : ∀ line ∈ lines, IsOneLine line.toList) :
    '\r' ∉ (String.join (lines.map (· ++ "\n"))).toList := by
  induction lines with
  | nil => exact List.not_mem_nil
  | cons line lines ih =>
    rw [List.forall_mem_cons] at h
    rw [List.map_cons, String.join_cons, String.toList_append, String.toList_append,
      List.mem_append, List.mem_append, not_or, not_or]
    exact ⟨⟨h.1.2, by decide⟩, ih h.2⟩

/-! ### The line for a trial -/

/-- The line tells what the evaluation of the source comes to. -/
structure TellsResult (source line : String) : Prop where
  /-- It is one line, without its end. -/
  isOneLine : IsOneLine line.toList
  /-- It says that there is a value, if there is one. -/
  result : ∀ v, evaluate source = .ok v → "Result: ".toList <+: line.toList
  /-- It says that there is a fault, if there is one. -/
  error : ∀ fault, evaluate source = .error fault → "Error: ".toList <+: line.toList

namespace Trial

/-- The line for the result, without its end. -/
def lineText (t : Trial) : String :=
  match t.outcome.result with
  | .ok value => "Result: " ++ value.text
  | .error fault => "Error: " ++ fault.message

theorem line_eq (t : Trial) : t.line = t.lineText ++ "\n" := by
  unfold line lineText
  cases t.outcome.result <;> rfl

/-- A trial is no failure exactly if its line says that there is a value. -/
theorem isFailure_eq_false_iff (t : Trial) :
    t.isFailure = false ↔ "Result: ".toList <+: t.lineText.toList := by
  unfold isFailure lineText
  cases t.outcome.result with
  | ok value => simp [String.toList_append]
  | error fault =>
    rw [String.toList_append]
    simp

theorem tellsResult (strip : Bool) (expression : String) :
    TellsResult (if strip then withoutBlanks expression else expression)
      (of strip expression).lineText := by
  generalize hsource : (if strip then withoutBlanks expression else expression) = source
  have hresult : (of strip expression).outcome.result = evaluate source := by
    rw [← hsource]
    rfl
  unfold lineText
  rw [hresult]
  cases h : evaluate source with
  | ok value =>
    refine ⟨?_, fun _ _ => ?_, fun _ hfault => nomatch h.symm.trans hfault⟩
    · rw [String.toList_append, isOneLine_append]
      exact ⟨by decide, value.isOneLine_text⟩
    · rw [String.toList_append]
      exact List.prefix_append _ _
  | error fault =>
    refine ⟨?_, fun _ hvalue => (nomatch h.symm.trans hvalue), fun _ _ => ?_⟩
    · rw [String.toList_append, isOneLine_append]
      exact ⟨by decide, Fault.isOneLine_message (namesNoBlank_of_evaluate h)⟩
    · rw [String.toList_append]
      exact List.prefix_append _ _

end Trial

/-! ### The output -/

namespace Request

variable (r : Request) (entries : List Entry) (trials : List Trial)

theorem output_reportOn :
    (r.reportOn false entries trials).output =
      String.join ((trials.map Trial.lineText).map (· ++ "\n")) := by
  simp only [reportOn, List.map_map]
  exact congrArg String.join (List.map_congr_left fun t _ => t.line_eq)

/-- The code is zero exactly if all lines say that there is a value. -/
theorem code_reportOn_eq_zero_iff_lines (announce : Bool) :
    (r.reportOn announce entries trials).code = 0 ↔
      ∀ line ∈ trials.map Trial.lineText, "Result: ".toList <+: line.toList := by
  rw [code_reportOn_eq_zero_iff, List.forall_mem_map]
  exact forall₂_congr fun t _ => t.isFailure_eq_false_iff

theorem code_reportOn_of_ne_zero {announce : Bool}
    (h : (r.reportOn announce entries trials).code ≠ 0) :
    (r.reportOn announce entries trials).code = 1 := by
  rw [reportOn] at h ⊢
  cases htrials : trials.any Trial.isFailure with
  | true => rfl
  | false =>
    rw [htrials] at h
    exact absurd rfl h

end Request

/-- **One line for each expression**: the output on expressions, of which there is at least one,
has just as many lines, and no line ends elsewhere in it. Each line tells what its expression comes
to, without its blanks if they are to be removed. The exit code is zero if all lines say that there
is a value, and one otherwise. -/
theorem one_line_for_each_expression {args : List String} {request : Request}
    {read : String → Except ReadFailure String} {expressions : List String}
    (hargs : Command.ofArguments args = .run request)
    (hread : request.expressionsWith read = .ok expressions) (hne : expressions ≠ []) :
    let report := (Command.ofArguments args).report read
    let source expression := if request.strip then withoutBlanks expression else expression
    ∃ lines : List String,
      report.output = String.join (lines.map (· ++ "\n")) ∧
      List.Forall₂ (fun expression line => TellsResult (source expression) line)
        expressions lines ∧
      report.output.toList.count '\n' = expressions.length ∧
      '\r' ∉ report.output.toList ∧
      (report.code = 0 ↔ ∀ line ∈ lines, "Result: ".toList <+: line.toList) ∧
      (report.code ≠ 0 → report.code = 1) := by
  intro report source
  have hreport : report =
      request.reportOn false [] (expressions.map (Trial.of request.strip)) := by
    rw [← Request.reportOnAll_of_ne_nil hne, ← Request.report_of_expressions hread]
    exact congrArg (Command.report · read) hargs
  let trials := expressions.map (Trial.of request.strip)
  have htells : List.Forall₂ (fun expression line => TellsResult (source expression) line)
      expressions (trials.map Trial.lineText) := by
    rw [List.forall₂_map_right_iff, List.forall₂_map_right_iff, List.forall₂_same]
    exact fun expression _ => Trial.tellsResult request.strip expression
  have hlines : ∀ line ∈ trials.map Trial.lineText, IsOneLine line.toList := by
    rw [List.forall_mem_map, List.forall_mem_map]
    exact fun expression _ => (Trial.tellsResult request.strip expression).isOneLine
  rw [hreport]
  refine ⟨trials.map Trial.lineText, request.output_reportOn [] trials, htells, ?_, ?_,
    request.code_reportOn_eq_zero_iff_lines [] trials false,
    request.code_reportOn_of_ne_zero [] trials⟩
  · rw [request.output_reportOn, count_feed_join hlines, List.length_map, List.length_map]
  · rw [request.output_reportOn]
    exact return_not_mem_join hlines

theorem one_line_for_each_expression_line_feed :
    let expressions := ["1\n2\r\n", "(\n$"]
    let report strip :=
      (Command.ofArguments (argumentsFor strip 1 expressions)).report fun _ => .error .missing
    expressions ≠ [] ∧
      ((report false).output.toList.count '\n' = 2 ∧ '\r' ∉ (report false).output.toList ∧
        ∃ first second, (report false).output = String.join [first ++ "\n", second ++ "\n"] ∧
          TellsResult "1\n2\r\n" first ∧ TellsResult "(\n$" second) ∧
      (report true).output.toList.count '\n' = 2 ∧ '\r' ∉ (report true).output.toList ∧
        ∃ first second, (report true).output = String.join [first ++ "\n", second ++ "\n"] ∧
          TellsResult "12" first ∧ TellsResult "($" second := by
  intro expressions report
  -- with and without the blanks in the expressions
  have hreport (strip : Bool) : (report strip).output.toList.count '\n' = 2 ∧
      '\r' ∉ (report strip).output.toList ∧
      ∃ first second, (report strip).output = String.join [first ++ "\n", second ++ "\n"] ∧
        TellsResult (if strip then withoutBlanks "1\n2\r\n" else "1\n2\r\n") first ∧
        TellsResult (if strip then withoutBlanks "(\n$" else "(\n$") second := by
    have hargs := ofArguments_argumentsFor strip 1 expressions
    have hread : Request.expressionsWith ⟨expressions, none, strip, min 1 highestVerbosity⟩
        (fun _ => .error .missing) = .ok expressions := rfl
    obtain ⟨lines, houtput, htells, hcount, hreturn, -⟩ :=
      one_line_for_each_expression hargs hread (List.cons_ne_nil _ _)
    obtain ⟨first, rest, hfirst, hrest, rfl⟩ := List.forall₂_cons_left_iff.1 htells
    obtain ⟨second, others, hsecond, hnone, rfl⟩ := List.forall₂_cons_left_iff.1 hrest
    obtain rfl := List.forall₂_nil_left_iff.1 hnone
    exact ⟨hcount, hreturn, first, second, houtput, hfirst, hsecond⟩
  have hone : withoutBlanks "1\n2\r\n" = "12" := by decide
  have htwo : withoutBlanks "(\n$" = "($" := by decide
  have hstripped := hreport true
  rw [if_pos rfl, if_pos rfl, hone, htwo] at hstripped
  exact ⟨List.cons_ne_nil _ _, hreport false, hstripped⟩

end Cli

end SumProduct
