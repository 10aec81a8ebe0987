import SumProduct.Proofs.Places
import SumProduct.Proofs.StackMachine.Agreement
import SumProduct.Proofs.Tokens

/-!
# The machine and the tokens of a text

The machine passes a text token by token. What it does at a token is decided by its mode, its
stack and the token alone (`token_cases`), and what it does at the end of the text by its mode and
stack (`end_cases`): neither where the token stands nor what comes after it counts. Blanks
change nothing (`answer_gap`). So two texts can be compared by their tokens.
-/

namespace SumProduct

namespace StackMachine.Machine

/-- Blanks do not change the answer. -/
theorem answer_gap (mode : Mode) (stack : List Frame) (n : Nat) (g : Gap) {x : List Char}
    (hx : NoneFirst isBlank x) :
    answer ⟨mode, stack, ⟨n, g.text ++ x⟩⟩ = answer ⟨mode, stack, ⟨n + g.text.length, x⟩⟩ := by
  rw [← Place.skipBlanks_append n g.blank hx]
  exact (steps_skipBlanks mode stack ⟨n, g.text ++ x⟩).answer_eq

/-- A digit or a point is unexpected after an operand. -/
theorem halts_literalChar {c : Char} (hc : isLiteralChar c = true) (sum : Option Binary64)
    (product : Binary64) (stack : List Frame) (n : Nat) (x : List Char) :
    Halts ⟨.operator sum product, stack, ⟨n, c :: x⟩⟩ (.error (.unexpectedCharacter c n)) :=
  .unexpected rfl (Literal.isBlank_of_isLiteralChar hc) (isLiteralChar_ne hc (by decide))
    (isLiteralChar_ne hc (by decide)) fun h => absurd h (isLiteralChar_ne hc (by decide))

/-- A literal that denotes a number is an operand. -/
theorem moves_literal {w x : List Char} {value : Binary64} (hne : w ≠ [])
    (hw : w.all isLiteralChar = true) (hv : Literal.value w = .ok value)
    (hx : NoneFirst isLiteralChar x) (frame : Frame) (stack : List Frame) (n : Nat) :
    Moves ⟨.operand frame, stack, ⟨n, w ++ x⟩⟩
      ⟨.operator frame.sum (frame.times value), stack, ⟨n + w.length, x⟩⟩ := by
  obtain ⟨c, rest, rfl⟩ := List.exists_cons_of_ne_nil hne
  have hlit : Place.literal ⟨n, c :: rest ++ x⟩ = c :: rest := Place.literal_eq rfl hw hx
  rw [← Place.skipLiteral_append n hw hx]
  exact .literal rfl (List.all_eq_true.1 hw c List.mem_cons_self) (hlit.symm ▸ hv)

/-- A literal that denotes no number is a fault. -/
theorem halts_badLiteral {w x : List Char} {defect : Defect} (hne : w ≠ [])
    (hw : w.all isLiteralChar = true) (hv : Literal.value w = .error defect)
    (hx : NoneFirst isLiteralChar x) (frame : Frame) (stack : List Frame) (n : Nat) :
    Halts ⟨.operand frame, stack, ⟨n, w ++ x⟩⟩
      (.error (.badLiteral (String.ofList w) n defect)) := by
  obtain ⟨c, rest, rfl⟩ := List.exists_cons_of_ne_nil hne
  have hlit : Place.literal ⟨n, c :: rest ++ x⟩ = c :: rest := Place.literal_eq rfl hw hx
  have hhalt := @Halts.badLiteral frame stack ⟨n, c :: rest ++ x⟩ c defect rfl
    (List.all_eq_true.1 hw c List.mem_cons_self) (hlit.symm ▸ hv)
  rwa [hlit] at hhalt

/-- A text that has a value begins with a literal that denotes a number, if it begins with
digits and points. -/
theorem isValid_of_answer_eq_ok {w x : List Char} {frame : Frame} {stack : List Frame} {n : Nat}
    {v : Binary64} (hne : w ≠ []) (hw : w.all isLiteralChar = true)
    (h : answer ⟨.operand frame, stack, ⟨n, w ++ x⟩⟩ = .ok v) :
    Literal.IsValid (w ++ x.takeWhile isLiteralChar) := by
  have hne' : w ++ x.takeWhile isLiteralChar ≠ [] := List.append_ne_nil_of_left_ne_nil hne _
  have hw' : (w ++ x.takeWhile isLiteralChar).all isLiteralChar = true := by
    rw [List.all_append, hw, List.all_takeWhile]
    rfl
  have hcut : w ++ x = w ++ x.takeWhile isLiteralChar ++ x.dropWhile isLiteralChar := by
    rw [List.append_assoc, List.takeWhile_append_dropWhile]
  cases hv : Literal.value (w ++ x.takeWhile isLiteralChar) with
  | ok value => exact (Literal.value_eq_ok_iff.1 hv).1
  | error defect =>
    have hend : NoneFirst isLiteralChar (x.dropWhile isLiteralChar) := .dropWhile
    have hhalt := halts_badLiteral hne' hw' hv hend frame stack n
    rw [← hcut] at hhalt
    exact nomatch hhalt.answer_eq.symm.trans h

/-- **At a token** the machine goes on or halts as its mode, its stack and the token say. -/
theorem token_cases (mode : Mode) (stack : List Frame) {w : List Char} (hw : IsToken w) :
    (∃ mode' stack', ∀ n x, Complete w x →
      Moves ⟨mode, stack, ⟨n, w ++ x⟩⟩ ⟨mode', stack', ⟨n + w.length, x⟩⟩) ∨
    ∃ fault : Fault, ∀ n x, Complete w x →
      Halts ⟨mode, stack, ⟨n, w ++ x⟩⟩ (.error (fault.moveTo n)) := by
  cases hw with
  | @mark c hb hl =>
    cases mode with
    | operand frame =>
      by_cases hp : c = '('
      · subst hp
        exact .inl ⟨_, _, fun n x _ => .opens rfl⟩
      · exact .inr ⟨.expectedNumber (some c) 0, fun n x _ => .noNumber rfl hb hp hl⟩
    | operator sum product =>
      by_cases h₁ : c = '*'
      · subst h₁
        exact .inl ⟨_, _, fun n x _ => .times rfl⟩
      by_cases h₂ : c = '+'
      · subst h₂
        exact .inl ⟨_, _, fun n x _ => .plus rfl⟩
      by_cases h₃ : c = ')'
      · subst h₃
        cases stack with
        | nil => exact .inr ⟨.unexpectedCharacter ')' 0,
            fun n x _ => .unexpected rfl hb h₁ h₂ fun _ => rfl⟩
        | cons frame stack => exact .inl ⟨_, _, fun n x _ => .closes rfl⟩
      · exact .inr ⟨.unexpectedCharacter c 0,
          fun n x _ => .unexpected rfl hb h₁ h₂ fun h => absurd h h₃⟩
  | literal hne hw =>
    cases mode with
    | operator sum product =>
      obtain ⟨c, rest, rfl⟩ := List.exists_cons_of_ne_nil hne
      have hc := List.all_eq_true.1 hw c List.mem_cons_self
      exact .inr ⟨.unexpectedCharacter c 0, fun n x _ => halts_literalChar hc sum product stack n _⟩
    | operand frame =>
      cases hv : Literal.value w with
      | ok value => exact .inl ⟨_, _, fun n x hx => moves_literal hne hw hv (hx hw) frame stack n⟩
      | error defect =>
        exact .inr ⟨.badLiteral (String.ofList w) 0 defect,
          fun n x hx => halts_badLiteral hne hw hv (hx hw) frame stack n⟩

/-- **At the end of the text** the machine answers as its mode and its stack say. -/
theorem end_cases (mode : Mode) (stack : List Frame) :
    (∃ v, ∀ n, Halts ⟨mode, stack, ⟨n, []⟩⟩ (.ok v)) ∨
    ∃ fault : Fault, ∀ n, Halts ⟨mode, stack, ⟨n, []⟩⟩ (.error (fault.moveTo n)) := by
  cases mode with
  | operand frame => exact .inr ⟨.unexpectedEnd 0, fun n => .unexpectedEnd rfl⟩
  | operator sum product =>
    cases stack with
    | nil => exact .inl ⟨total sum product, fun n => .value rfl⟩
    | cons frame stack => exact .inr ⟨.expectedClosing none 0, fun n => .unclosed rfl⟩

end StackMachine.Machine

end SumProduct
