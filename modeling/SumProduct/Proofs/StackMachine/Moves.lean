import Mathlib.Logic.Relation
import SumProduct.Proofs.Course
import SumProduct.StackMachine

/-!
# The moves of the stack machine

What the machine of `SumProduct.StackMachine` can do, each of its moves and each way to
halt with a constructor of its own. The machine goes from where it is, move by move, to a
configuration where it halts, and what it says there is its answer, and nothing else is
(`answer_eq_iff`). The bound on the number of steps that the program has is not in it.
-/

namespace SumProduct.StackMachine.Machine

open Relation

/-- A move of the machine. -/
inductive Moves : Machine → Machine → Prop
  /-- Past a blank. -/
  | blank {mode stack p c} (h : p.peek? = some c) (hc : isBlank c = true) :
    Moves ⟨mode, stack, p⟩ ⟨mode, stack, p.advance⟩
  /-- Into a parenthesis. -/
  | opens {frame stack p} (h : p.peek? = some '(') :
    Moves ⟨.operand frame, stack, p⟩ ⟨.operand .empty, frame :: stack, p.advance⟩
  /-- Past a literal. -/
  | literal {frame stack p c value} (h : p.peek? = some c) (hl : isLiteralChar c = true)
    (hv : Literal.value p.literal = .ok value) :
    Moves ⟨.operand frame, stack, p⟩
      ⟨.operator frame.sum (frame.times value), stack, p.skipLiteral⟩
  /-- Past the sign of a product. -/
  | times {sum product stack p} (h : p.peek? = some '*') :
    Moves ⟨.operator sum product, stack, p⟩ ⟨.operand ⟨sum, some product⟩, stack, p.advance⟩
  /-- Past the sign of a sum. -/
  | plus {sum product stack p} (h : p.peek? = some '+') :
    Moves ⟨.operator sum product, stack, p⟩
      ⟨.operand ⟨some (total sum product), none⟩, stack, p.advance⟩
  /-- Out of a parenthesis. -/
  | closes {sum product frame stack p} (h : p.peek? = some ')') :
    Moves ⟨.operator sum product, frame :: stack, p⟩
      ⟨.operator frame.sum (frame.times (total sum product)), stack, p.advance⟩

/-- The machine halts with a result. -/
inductive Halts : Machine → Except Fault Binary64 → Prop
  /-- At the end of the text, without an operand. -/
  | unexpectedEnd {frame stack p} (h : p.peek? = none) :
    Halts ⟨.operand frame, stack, p⟩ (.error (.unexpectedEnd p.position))
  /-- At a character that starts no operand. -/
  | noNumber {frame stack p c} (h : p.peek? = some c) (hb : isBlank c = false) (hp : c ≠ '(')
    (hl : isLiteralChar c = false) :
    Halts ⟨.operand frame, stack, p⟩ (.error (.expectedNumber (some c) p.position))
  /-- At a literal that denotes no number. -/
  | badLiteral {frame stack p c defect} (h : p.peek? = some c) (hl : isLiteralChar c = true)
    (hv : Literal.value p.literal = .error defect) :
    Halts ⟨.operand frame, stack, p⟩
      (.error (.badLiteral (String.ofList p.literal) p.position defect))
  /-- At the end of the text, with its value. -/
  | value {sum product p} (h : p.peek? = none) :
    Halts ⟨.operator sum product, [], p⟩ (.ok (total sum product))
  /-- At the end of the text, with a parenthesis open. -/
  | unclosed {sum product frame stack p} (h : p.peek? = none) :
    Halts ⟨.operator sum product, frame :: stack, p⟩ (.error (.expectedClosing none p.position))
  /-- At a character that may not follow an operand. -/
  | unexpected {sum product stack p c} (h : p.peek? = some c) (hb : isBlank c = false)
    (h₁ : c ≠ '*') (h₂ : c ≠ '+') (h₃ : c = ')' → stack = []) :
    Halts ⟨.operator sum product, stack, p⟩ (.error (.unexpectedCharacter c p.position))

/-- The machine goes from one configuration to another. -/
def Steps : Machine → Machine → Prop := ReflTransGen Moves

/-- What the machine answers in the end. -/
def answer (m : Machine) : Except Fault Binary64 := m.run m.place.rest

/-! ### The machine makes these moves -/

theorem skip_literal (p : Place) : p.skip p.literal.length = p.skipLiteral := by
  have h : p.rest.drop p.literal.length = p.rest.dropWhile isLiteralChar := by
    calc p.rest.drop p.literal.length
        = (p.literal ++ p.rest.dropWhile isLiteralChar).drop p.literal.length := by
          rw [Place.literal, List.takeWhile_append_dropWhile]
      _ = p.rest.dropWhile isLiteralChar := List.drop_left
  rw [Place.skip, Place.skipLiteral, h]

theorem readLiteral_eq (mode : Mode) (frame : Frame) (stack : List Frame) {p : Place} {c : Char}
    (h : p.peek? = some c) :
    readLiteral ⟨mode, stack, p⟩ frame =
      if isLiteralChar c = true then
        match Literal.value p.literal with
        | .error defect => .error (.badLiteral (String.ofList p.literal) p.position defect)
        | .ok value => .ok ⟨.operator frame.sum (frame.times value), stack, p.skipLiteral⟩
      else .error (.expectedNumber (some c) p.position) := by
  rw [← skip_literal]
  split
  · next hl => exact if_neg (Place.literal_ne_nil h hl)
  · next hl =>
    rw [← h]
    exact if_pos (Place.literal_eq_nil h (by simpa using hl))

theorem isLiteralChar_ne {c d : Char} (h : isLiteralChar c = true) (hd : isLiteralChar d = false) :
    c ≠ d := by
  rintro rfl
  exact Bool.noConfusion (h.symm.trans hd)

/-- A move is what the machine does at the next character. -/
theorem Moves.step_eq {m m' : Machine} (h : Moves m m') :
    ∃ c, m.place.peek? = some c ∧ m.step c = .ok m' := by
  cases h with
  | blank h hc => exact ⟨_, h, by simp [step, hc]⟩
  | opens h => exact ⟨_, h, by simp [step, isBlank_marks]⟩
  | literal h hl hv =>
    refine ⟨_, h, ?_⟩
    simp [step, Literal.isBlank_of_isLiteralChar hl, isLiteralChar_ne hl isLiteralChar_openParen,
      readLiteral_eq _ _ _ h, hl, hv]
  | times h => exact ⟨_, h, by simp [step, isBlank_marks]⟩
  | plus h => exact ⟨_, h, by simp [step, isBlank_marks]⟩
  | closes h => exact ⟨_, h, by simp [step, isBlank_marks]⟩

/-- A move takes away from the text. -/
theorem Moves.length_lt {m m' : Machine} (h : Moves m m') :
    m'.place.rest.length < m.place.rest.length := by
  cases h with
  | literal h hl _ => exact Place.length_skipLiteral_lt h hl
  | blank h _ | opens h | times h | plus h | closes h => exact Place.length_advance_lt h

/-- Where the machine halts, it answers so with any number of rounds that is enough for the
rest of the text. -/
theorem Halts.run_eq {m : Machine} {result : Except Fault Binary64} (h : Halts m result)
    (rounds : List Char) (hr : m.place.rest.length ≤ rounds.length) : m.run rounds = result := by
  have atEnd {m : Machine} (hp : m.place.peek? = none) : m.run rounds = m.finish := by
    cases rounds <;> simp [run, hp]
  have atChar {m : Machine} {c : Char} {fault : Fault} (hp : m.place.peek? = some c)
      (hr : m.place.rest.length ≤ rounds.length) (hs : m.step c = .error fault) :
      m.run rounds = .error fault := by
    cases rounds with
    | nil => simp [Place.rest_eq_cons hp] at hr
    | cons d rounds => simp [run, hp, hs]
  cases h with
  | unexpectedEnd h | value h | unclosed h => exact atEnd h
  | noNumber h hb hp hl =>
    exact atChar h hr (by simp [step, hb, hp, readLiteral_eq _ _ _ h, hl])
  | badLiteral h hl hv =>
    refine atChar h hr ?_
    simp [step, Literal.isBlank_of_isLiteralChar hl, isLiteralChar_ne hl isLiteralChar_openParen,
      readLiteral_eq _ _ _ h, hl, hv]
  | unexpected h hb h₁ h₂ h₃ =>
    refine atChar h hr ?_
    simp only [step, hb, h₁, h₂, Bool.false_eq_true, if_false]
    split
    · next hc => simp [h₃ hc]
    · rfl

/-- The machine answers what it says where it halts. -/
theorem Steps.run_eq {m m' : Machine} {result : Except Fault Binary64} (hs : Steps m m')
    (h : Halts m' result) (rounds : List Char) (hr : m.place.rest.length ≤ rounds.length) :
    m.run rounds = result := by
  induction hs using ReflTransGen.head_induction_on generalizing rounds with
  | refl => exact h.run_eq rounds hr
  | head hmove _ ih =>
    obtain ⟨c, hc, hstep⟩ := hmove.step_eq
    have hlt := hmove.length_lt
    cases rounds with
    | nil => simp [Place.rest_eq_cons hc] at hr
    | cons d rounds =>
      simp only [run, hc, hstep]
      exact ih rounds (by rw [List.length_cons] at hr; omega)

/-! ### The machine always comes to an answer -/

/-- The machine can move or it halts. -/
theorem moves_or_halts (m : Machine) : (∃ m', Moves m m') ∨ ∃ result, Halts m result := by
  rcases m with ⟨mode, stack, p⟩
  rcases hc : p.peek? with _ | c
  · cases mode with
    | operand frame => exact .inr ⟨_, .unexpectedEnd hc⟩
    | operator sum product =>
      cases stack with
      | nil => exact .inr ⟨_, .value hc⟩
      | cons frame stack => exact .inr ⟨_, .unclosed hc⟩
  cases hb : isBlank c with
  | true => exact .inl ⟨_, .blank hc hb⟩
  | false =>
    cases mode with
    | operand frame =>
      by_cases hp : c = '('
      · exact .inl ⟨_, .opens (hp ▸ hc)⟩
      cases hl : isLiteralChar c with
      | false => exact .inr ⟨_, .noNumber hc hb hp hl⟩
      | true =>
        cases hv : Literal.value p.literal with
        | error defect => exact .inr ⟨_, .badLiteral hc hl hv⟩
        | ok value => exact .inl ⟨_, .literal hc hl hv⟩
    | operator sum product =>
      by_cases h₁ : c = '*'
      · exact .inl ⟨_, .times (h₁ ▸ hc)⟩
      by_cases h₂ : c = '+'
      · exact .inl ⟨_, .plus (h₂ ▸ hc)⟩
      by_cases h₃ : c = ')'
      · cases stack with
        | nil => exact .inr ⟨_, .unexpected hc hb h₁ h₂ fun _ => rfl⟩
        | cons frame stack => exact .inl ⟨_, .closes (h₃ ▸ hc)⟩
      · exact .inr ⟨_, .unexpected hc hb h₁ h₂ fun h => absurd h h₃⟩

theorem exists_halts (m : Machine) : ∃ m' result, Steps m m' ∧ Halts m' result := by
  induction hn : m.place.rest.length using Nat.strongRecOn generalizing m with
  | ind n ih =>
    rcases m.moves_or_halts with ⟨m', hmove⟩ | ⟨result, h⟩
    · obtain ⟨m'', result, hs, h⟩ := ih _ (hn ▸ hmove.length_lt) m' rfl
      exact ⟨m'', result, .head hmove hs, h⟩
    · exact ⟨m, result, .refl, h⟩

/-- **The answer of the machine** is what it says in the configuration where it halts. -/
theorem answer_eq_iff {m : Machine} {result : Except Fault Binary64} :
    m.answer = result ↔ ∃ m', Steps m m' ∧ Halts m' result := by
  constructor
  · rintro rfl
    obtain ⟨m', result, hs, h⟩ := m.exists_halts
    have : m.answer = result := hs.run_eq h _ (Nat.le_refl _)
    exact ⟨m', hs, this ▸ h⟩
  · rintro ⟨m', hs, h⟩
    exact hs.run_eq h _ (Nat.le_refl _)

theorem Halts.answer_eq {m : Machine} {result : Except Fault Binary64} (h : Halts m result) :
    m.answer = result := answer_eq_iff.2 ⟨m, .refl, h⟩

/-- The answer does not change on the way to it. -/
theorem Steps.answer_eq {m m' : Machine} (hs : Steps m m') : m.answer = m'.answer := by
  obtain ⟨m'', hs', h⟩ := answer_eq_iff.1 (rfl : m'.answer = m'.answer)
  exact answer_eq_iff.2 ⟨m'', hs.trans hs', h⟩

end SumProduct.StackMachine.Machine
