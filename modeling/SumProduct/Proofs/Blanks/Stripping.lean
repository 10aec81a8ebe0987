import SumProduct.Proofs.Faults.Stops
import SumProduct.Proofs.StackMachine.Tokens

/-!
# Texts without their blanks

A text that has a value has the same value without its blanks. A text that has none may get one,
but only where a literal was split by blanks, so that its parts are one literal without them: the
fault is then the first character of the second part, or the first part is a lone point
(`evaluate_withoutBlanks`).

The proof compares the machine with a stack before a text and before its marks, token by token
(`Tokens.strips`). They part at the first token that goes on in the marks behind it; there the
text has a fault, and it remains to see when the marks can have a value.
-/

namespace SumProduct

open StackMachine StackMachine.Machine

/-- The fault is found between the parts of a literal split by blanks: at the second part, which
begins behind a blank and before that with a digit or a point, or in a first part that is a lone
point, with blanks and a digit behind it. -/
def Fault.SplitsLiteral (text : List Char) : Fault → Prop
  | .unexpectedCharacter c p => isLiteralChar c = true ∧
      (∃ b, 0 < p ∧ text[p - 1]? = some b ∧ isBlank b = true) ∧
      ∃ d, (marks (text.take p)).getLast? = some d ∧ isLiteralChar d = true
  | .badLiteral literal p _ => literal = "." ∧ ∃ (g : Gap) (d : Char) (x : List Char),
      text.drop (p + 1) = g.text ++ d :: x ∧ g.text ≠ [] ∧ d.isDigit = true
  | .unexpectedEnd _ | .expectedClosing _ _ | .expectedNumber _ _ => False

/-- The text has a value only if it has the same without blanks, and without blanks has one only
if the fault lies in a split literal. -/
def Strips (text : List Char) (r₁ r₂ : Except Fault Binary64) : Prop :=
  (∀ v, r₁ = .ok v → r₂ = .ok v) ∧
    ∀ fault v, r₁ = .error fault → r₂ = .ok v → fault.SplitsLiteral text

theorem Strips.of_faults {text : List Char} (f₁ f₂ : Fault) :
    Strips text (.error f₁) (.error f₂) := ⟨nofun, nofun⟩

/-! ### Where the marks go on with a token -/

/-- A token that goes on in the marks behind it, but not in the text, is split by blanks. -/
theorem exists_split {w x : List Char} (hx : Complete w x) (h : ¬ Complete w (marks x)) :
    w.all isLiteralChar = true ∧ ∃ (g : Gap) (d : Char) (y : List Char),
      x = g.text ++ d :: y ∧ g.text ≠ [] ∧ isLiteralChar d = true := by
  simp only [Complete, NoneFirst, Classical.not_imp, not_forall, Bool.not_eq_false] at h
  obtain ⟨hw, d, hd, hl⟩ := h
  obtain ⟨r, hr⟩ := List.head?_eq_some_iff.1 hd
  obtain ⟨g, y, rfl, -, -⟩ := exists_gap_of_marks hr
  refine ⟨hw, g, d, y, rfl, fun hg => ?_, hl⟩
  have hnone := hx hw
  rw [hg, List.nil_append] at hnone
  exact Bool.noConfusion (hnone.of_cons.symm.trans hl)

/-- A bad literal that goes on to a good one is a lone point before a digit. -/
theorem Literal.eq_point_of_append {w e : List Char} {d : Char} {defect : Defect}
    (hw : w.all isLiteralChar = true) (hne : w ≠ []) (hbad : value w = .error defect)
    (hgood : IsValid (w ++ d :: e)) : w = ['.'] ∧ d.isDigit = true := by
  obtain ⟨hall, hdigit, hcount⟩ := hgood
  have hpoints : w.count '.' + (d :: e).count '.' ≤ 1 := by rwa [← List.count_append]
  have hnodigit : w.any Char.isDigit = false :=
    (no_digit_or_points hbad hw).resolve_right (by omega)
  -- without a digit there are only points in `w`
  have hpoint : ∀ c ∈ w, c = '.' := by
    intro c hc
    have hl := List.all_eq_true.1 hw c hc
    have hd := List.any_eq_false.1 hnodigit c hc
    simpa [isLiteralChar, hd] using hl
  have hrep : w = List.replicate w.length '.' := List.eq_replicate_of_mem hpoint
  have hlen : w.count '.' = w.length := by rw [hrep]; simp
  have hpos : 0 < w.length := List.length_pos_iff.2 hne
  have hone : w.length = 1 := by omega
  refine ⟨by rw [hrep, hone]; rfl, ?_⟩
  have hd : d ≠ '.' := by
    rintro rfl
    rw [List.count_cons_self] at hpoints
    omega
  have hl : isLiteralChar d = true := List.all_eq_true.1 hall d (by simp)
  simpa [isLiteralChar, hd] using hl

/-- The first character behind a literal and blanks, if it could go on with the literal. -/
theorem splitsLiteral_unexpectedCharacter {u w y : List Char} {g : Gap} {d : Char} (hne : w ≠ [])
    (hw : w.all isLiteralChar = true) (hg : g.text ≠ []) (hd : isLiteralChar d = true) :
    Fault.SplitsLiteral (u ++ (w ++ (g.text ++ d :: y)))
      (.unexpectedCharacter d (u.length + w.length + g.text.length)) := by
  obtain ⟨g₀, b, hb⟩ := (List.eq_nil_or_concat g.text).resolve_left hg
  have hblank : isBlank b = true := List.all_eq_true.1 g.blank b (by simp [hb])
  have htext : u ++ (w ++ (g.text ++ d :: y)) = u ++ w ++ g₀ ++ b :: d :: y := by simp [hb]
  have hpos : u.length + w.length + g.text.length = (u ++ w ++ g₀).length + 1 := by
    simp [hb, Nat.add_assoc]
  have htake : (u ++ (w ++ (g.text ++ d :: y))).take (u.length + w.length + g.text.length) =
      u ++ (w ++ g.text) := by
    rw [← List.append_assoc w, ← List.append_assoc u, Nat.add_assoc, ← List.length_append,
      ← List.length_append, List.take_left]
  refine ⟨hd, ⟨b, by omega, ?_, hblank⟩, w.getLast hne, ?_, ?_⟩
  · rw [hpos, Nat.add_sub_cancel, htext, List.getElem?_append_right (Nat.le_refl _), Nat.sub_self]
    rfl
  · rw [htake, marks_append, marks_append, marks_gap, (IsToken.literal hne hw).marks_eq,
      List.append_nil, List.getLast?_append, List.getLast?_eq_some_getLast hne]
    rfl
  · exact List.all_eq_true.1 hw _ (List.getLast_mem hne)

/-- Before a literal that goes on in the marks behind it. -/
theorem strips_split {u w x : List Char} (hne : w ≠ []) (hx : Complete w x)
    (h : ¬ Complete w (marks x)) (mode : Mode) (stack : List Frame) (n : Nat) :
    Strips (u ++ (w ++ x)) (answer ⟨mode, stack, ⟨u.length, w ++ x⟩⟩)
      (answer ⟨mode, stack, ⟨n, w ++ marks x⟩⟩) := by
  obtain ⟨hw, g, d, y, rfl, hg, hd⟩ := exists_split hx h
  have hb : isBlank d = false := Literal.isBlank_of_isLiteralChar hd
  cases mode with
  | operator sum product =>
    obtain ⟨c, rest, rfl⟩ := List.exists_cons_of_ne_nil hne
    have hc := List.all_eq_true.1 hw c List.mem_cons_self
    rw [List.cons_append, List.cons_append, (halts_literalChar hc _ _ _ _ _).answer_eq,
      (halts_literalChar hc _ _ _ _ _).answer_eq]
    exact .of_faults _ _
  | operand frame =>
    cases hv : Literal.value w with
    | ok value =>
      -- the text has an operand here, and its fault at the character behind the blanks
      rw [Steps.answer_eq (.single (moves_literal hne hw hv (hx hw) frame stack _)),
        answer_gap _ _ _ g (.cons hb), (halts_literalChar hd _ _ _ _ _).answer_eq]
      refine ⟨nofun, fun fault v hf _ => ?_⟩
      obtain rfl := Except.error.inj hf
      exact splitsLiteral_unexpectedCharacter hne hw hg hd
    | error defect =>
      rw [(halts_badLiteral hne hw hv (hx hw) frame stack _).answer_eq]
      refine ⟨nofun, fun fault v hf hok => ?_⟩
      obtain rfl := Except.error.inj hf
      -- the marks have a longer literal here, and it must be a good one
      have hgood := isValid_of_answer_eq_ok hne hw hok
      rw [marks_append, marks_gap, List.nil_append, marks_cons hb, List.takeWhile_cons_of_pos hd]
        at hgood
      obtain ⟨rfl, hdigit⟩ := Literal.eq_point_of_append hw hne hv hgood
      refine ⟨rfl, g, d, y, ?_, hg, hdigit⟩
      rw [← List.drop_drop, List.drop_left]
      rfl

/-- **By the tokens**: the machine before a text and before its marks. -/
theorem Tokens.strips {x : List Char} {ws : List (List Char)} (hx : Tokens x ws) (u : List Char)
    (mode : Mode) (stack : List Frame) (n : Nat) :
    Strips (u ++ x) (answer ⟨mode, stack, ⟨u.length, x⟩⟩)
      (answer ⟨mode, stack, ⟨n, marks x⟩⟩) := by
  induction hx generalizing u mode stack n with
  | blanks g =>
    have hgap := answer_gap mode stack u.length g .nil
    rw [List.append_nil] at hgap
    rw [hgap, marks_gap]
    rcases end_cases mode stack with ⟨v, hv⟩ | ⟨fault, hf⟩
    · rw [(hv _).answer_eq, (hv _).answer_eq]
      exact ⟨fun _ h => h, nofun⟩
    · rw [(hf _).answer_eq, (hf _).answer_eq]
      exact .of_faults _ _
  | @token g w x ws hw hx later ih =>
    rw [answer_gap mode stack u.length g (hw.noneFirst_isBlank x), ← List.length_append,
      ← List.append_assoc u, marks_append, marks_gap, List.nil_append, marks_append, hw.marks_eq]
    by_cases hend : Complete w (marks x)
    · rcases token_cases mode stack hw with ⟨mode', stack', hmove⟩ | ⟨fault, hf⟩
      · have hih := ih (u ++ g.text ++ w) mode' stack' (n + w.length)
        rw [List.append_assoc (u ++ g.text), List.length_append] at hih
        rw [Steps.answer_eq (.single (hmove _ x hx)), Steps.answer_eq (.single (hmove _ _ hend))]
        exact hih
      · rw [(hf _ x hx).answer_eq, (hf _ _ hend).answer_eq]
        exact .of_faults _ _
    · obtain ⟨c, rest, hw', -⟩ := hw.exists_eq_cons
      exact strips_split (hw' ▸ List.cons_ne_nil c rest) hx hend mode stack n

/-! ### Evaluation -/

/-- **Without blanks** a text that has a value has the same one, and a text that has none has one
only if its fault lies in a literal split by blanks. -/
theorem evaluate_withoutBlanks (s : String) :
    (∀ v, evaluate s = .ok v → evaluate (withoutBlanks s) = .ok v) ∧
      ∀ fault v, evaluate s = .error fault → evaluate (withoutBlanks s) = .ok v →
        fault.SplitsLiteral s.toList := by
  suffices h : Strips s.toList (evaluate s) (evaluate (withoutBlanks s)) from h
  have hblank : (withoutBlanks s).toList.all isBlank = s.toList.all isBlank := by
    refine all_isBlank_congr ?_
    rw [toList_withoutBlanks]
    simp [marks]
  cases hb : s.toList.all isBlank with
  | true =>
    rw [evaluate_of_blank hb, evaluate_of_blank (hblank.trans hb)]
    exact .of_faults _ _
  | false =>
    rw [evaluate_eq_answer hb, evaluate_eq_answer (hblank.trans hb), toList_withoutBlanks]
    obtain ⟨ws, hws⟩ := exists_tokens s.toList
    exact hws.strips [] (.operand .empty) [] 0

/-- Both kinds of split literals get a value, and two points do not. -/
example :
    evaluate "2*1 5" = .error (.unexpectedCharacter '5' 4) ∧ (evaluate "2*15").isOk = true ∧
      evaluate ". 5" = .error (.badLiteral "." 0 .malformed) ∧ (evaluate ".5").isOk = true ∧
      evaluate "1. .5" = .error (.unexpectedCharacter '.' 3) ∧ (evaluate "1..5").isOk = false :=
  ⟨rfl, rfl, rfl, rfl, rfl, rfl⟩

end SumProduct
