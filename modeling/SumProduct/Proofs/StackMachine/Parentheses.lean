import SumProduct.Proofs.StackMachine.Splicing
import SumProduct.Proofs.Text.Balance

/-!
# Open parentheses

The stack of the machine is as high as parentheses are open. That is a law of conservation: what
the stack has and what the text that is left opens more than it closes stay the same together
(`Steps.balance_eq`). So the height of the stack at the end of a text can be counted in the text.

After an operand the machine answers for a text of closing parentheses by their number alone:
with fewer than are open it still expects one, and with more the first one too many is
unexpected.
-/

namespace SumProduct

namespace StackMachine.Machine

open Relation

/-! ### The height of the stack -/

/-- The parentheses that are open, and those that the text that is left opens more than it
closes. -/
def balance (m : Machine) : Int := m.stack.length + SumProduct.balance m.place.rest

/-- **A move** keeps the balance. -/
theorem Moves.balance_eq {m m' : Machine} (h : Moves m m') : m.balance = m'.balance := by
  cases h with
  | @blank _ _ _ c h hc =>
    have hblank : SumProduct.balance [c] = 0 := balance_blanks (by simp [hc])
    rw [balance, Place.balance_rest h, hblank, Int.zero_add]
    rfl
  | times h | plus h =>
    rw [balance, Place.balance_rest h]
    exact congrArg _ (Int.zero_add _)
  | opens h =>
    have hopen : SumProduct.balance ['('] = 1 := rfl
    simp only [balance, Place.balance_rest h, hopen, List.length_cons]
    omega
  | closes h =>
    have hclose : SumProduct.balance [')'] = -1 := rfl
    simp only [balance, Place.balance_rest h, hclose, List.length_cons]
    omega
  | literal _ _ _ =>
    rw [balance, ← Place.balance_skipLiteral]
    rfl

theorem Steps.balance_eq {m m' : Machine} (h : Steps m m') : m.balance = m'.balance := by
  induction h with
  | refl => rfl
  | tail _ hmove ih => exact ih.trans hmove.balance_eq

/-- **The height of the stack** can be counted in what the machine has passed. -/
theorem balance_of_passed {text passed : List Char} {m : Machine} (h : Steps (start text) m)
    (htext : text = passed ++ m.place.rest) : SumProduct.balance passed = m.stack.length := by
  have hbalance := h.balance_eq
  have hstart : (start text).balance = 0 + SumProduct.balance text := rfl
  rw [hstart, balance, htext, balance_append] at hbalance
  omega

/-- At the end of a text the stack is as high as parentheses are open in the text. -/
theorem balance_of_steps {text : List Char} {m : Machine} (h : Steps (start text) m)
    (hend : m.place.rest = []) : SumProduct.balance text = m.stack.length := by
  apply balance_of_passed h
  rw [hend, List.append_nil]

/-! ### Closing parentheses -/

/-- With too few closing parentheses one more is expected at the end. -/
theorem answer_closings_lt {stack : List Frame} {j : Nat} (h : j < stack.length)
    (sum : Option Binary64) (product : Binary64) (n : Nat) :
    answer ⟨.operator sum product, stack, ⟨n, List.replicate j ')'⟩⟩ =
      .error (.expectedClosing none (n + j)) := by
  induction j generalizing sum product stack n with
  | zero =>
    obtain ⟨frame, stack, rfl⟩ := List.exists_cons_of_length_pos h
    exact (Halts.unclosed rfl).answer_eq
  | succ j ih =>
    obtain ⟨frame, stack, rfl⟩ := List.exists_cons_of_length_pos (Nat.zero_lt_of_lt h)
    rw [List.replicate_succ, Steps.answer_eq (.single (.closes rfl)), Nat.add_comm j, ← Nat.add_assoc]
    exact ih (Nat.lt_of_succ_lt_succ h) _ _ (n + 1)

/-- With too many closing parentheses the first of them that closes nothing is unexpected. -/
theorem answer_closings_gt {stack : List Frame} {j : Nat} (h : stack.length < j)
    (sum : Option Binary64) (product : Binary64) (n : Nat) :
    answer ⟨.operator sum product, stack, ⟨n, List.replicate j ')'⟩⟩ =
      .error (.unexpectedCharacter ')' (n + stack.length)) := by
  induction stack generalizing sum product n j with
  | nil =>
    obtain ⟨j, rfl⟩ := Nat.exists_eq_succ_of_ne_zero (Nat.ne_zero_of_lt h)
    exact (Halts.unexpected rfl isBlank_marks.2.2.2.1 (by decide) (by decide) fun _ => rfl).answer_eq
  | cons frame stack ih =>
    obtain ⟨j, rfl⟩ := Nat.exists_eq_succ_of_ne_zero (Nat.ne_zero_of_lt h)
    rw [List.replicate_succ, Steps.answer_eq (.single (.closes rfl)), List.length_cons,
      Nat.add_comm stack.length, ← Nat.add_assoc]
    exact ih (Nat.lt_of_succ_lt_succ h) _ _ (n + 1)

end StackMachine.Machine

end SumProduct
