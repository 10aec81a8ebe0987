import SumProduct.Proofs.Faults.Earliest
import SumProduct.Proofs.StackMachine.Parentheses
import SumProduct.Proofs.StackMachine.Tokens

/-!
# Unfinished texts

A text that ends inside of an expression says itself what it takes to finish it, by the number of
parentheses that it opens and does not close. If a closing parenthesis is expected at its end, just
so many of them make it an expression; with fewer the fault is the same at the new end, and with
more the first one too many is unexpected. If an operand is expected, it takes any literal that
denotes a number and then as many closing parentheses (`unfinished_text_completed`).

The count is right because the machine with a stack has passed the whole text: its stack is as high
as parentheses are open (`StackMachine.Machine.balance_of_steps`).
-/

namespace SumProduct

open StackMachine StackMachine.Machine

/-- The text with closing parentheses behind it. -/
def closedBy (s : String) (n : Nat) : String := s ++ String.ofList (List.replicate n ')')

theorem toList_closedBy (s : String) (n : Nat) :
    (closedBy s n).toList = s.toList ++ List.replicate n ')' := by
  rw [closedBy, String.toList_append, String.toList_ofList]

/-! ### Where a closing parenthesis is expected -/

/-- The machine goes on from the same configuration behind a text whose parentheses are not all
closed, however many are closed behind it. -/
theorem exists_unclosed {s : String} {found : Option Char} {n : Nat}
    (h : evaluate s = .error (.expectedClosing found n)) :
    ∃ sum product stack, 0 < stack.length ∧ balance s.toList = stack.length ∧
      ∀ j, evaluate (closedBy s j) =
        answer ⟨.operator sum product, stack, ⟨s.length, List.replicate j ')'⟩⟩ := by
  have hb : s.toList.all isBlank = false := not_blank_of_evaluate_ne (by simp [h])
  obtain ⟨m, hsteps, hhalt⟩ := answer_eq_iff.1 ((evaluate_eq_answer hb).symm.trans h)
  cases hhalt with
  | @unclosed sum product frame stack p hp =>
    obtain ⟨hpos, hreach⟩ := Reaches.of_steps_end hsteps hp
    refine ⟨sum, product, frame :: stack, Nat.zero_lt_succ _,
      balance_of_steps hsteps (Place.rest_eq_nil hp), fun j => ?_⟩
    have hbj : (closedBy s j).toList.all isBlank = false := by
      rw [toList_closedBy, List.all_append, hb, Bool.false_and]
    have hclosing := hreach (List.replicate j ')') fun _ => noneFirst_replicate_close j
    rw [evaluate_eq_answer hbj, toList_closedBy, hclosing.answer_eq, ← String.length_toList, ← hpos]
    rfl

/-! ### Where an operand is expected -/

/-- The text ends where an operand is expected. -/
def LacksOperand (s : String) : Prop :=
  (∃ n, evaluate s = .error (.unexpectedEnd n)) ∨ s.toList.all isBlank = true

/-- The machine gets to the end of such a text and expects an operand. -/
theorem LacksOperand.exists_steps {s : String} (h : LacksOperand s) :
    ∃ frame stack p, p.rest = [] ∧ Steps (start s.toList) ⟨.operand frame, stack, p⟩ := by
  cases hb : s.toList.all isBlank with
  | true => exact ⟨_, _, _, rfl, steps_of_blank hb⟩
  | false =>
    obtain ⟨n, hn⟩ := h.resolve_right (by simp [hb])
    obtain ⟨m, hsteps, hhalt⟩ := answer_eq_iff.1 ((evaluate_eq_answer hb).symm.trans hn)
    cases hhalt with
    | unexpectedEnd hp => exact ⟨_, _, _, Place.rest_eq_nil hp, hsteps⟩

/-- With a literal that denotes a number and a closing parenthesis for each that is open the text
has a value. -/
theorem LacksOperand.completed {s : String} (h : LacksOperand s) :
    ∃ d : Nat, balance s.toList = d ∧
      ∀ x : String, Literal.IsValid x.toList → ∃ v, evaluate (closedBy (s ++ x) d) = .ok v := by
  obtain ⟨frame, stack, p, hp, hsteps⟩ := h.exists_steps
  obtain ⟨u, ⟨hu, -⟩, hsplice⟩ := hsteps.splice_operand
  obtain rfl : s.toList = u := by
    rw [hp, List.append_nil] at hu
    exact hu
  refine ⟨stack.length, balance_of_steps hsteps hp, fun x hx => ?_⟩
  obtain ⟨c, rest, hne, -⟩ := hx.exists_eq_cons
  have hliteral := moves_literal (hne ▸ List.cons_ne_nil c rest) hx.1
    (Literal.value_eq_ok_iff.2 ⟨hx, rfl⟩) (noneFirst_closing stack) frame stack p.position
  obtain ⟨v, hv⟩ := exists_answer_closing frame.sum (frame.times (Literal.decimal x.toList).toBinary64)
    stack (p.position + x.toList.length)
  have hanswer : (start (s.toList ++ (x.toList ++ closing stack))).answer = .ok v :=
    (Steps.answer_eq ((hsplice _).tail hliteral)).trans hv
  have htext : closedBy (s ++ x) stack.length =
      String.ofList (s.toList ++ (x.toList ++ closing stack)) := by
    apply String.ext
    rw [toList_closedBy, String.toList_append, String.toList_ofList, List.append_assoc]
    rfl
  rw [htext]
  exact ⟨v, evaluate_eq_ok_of_answer hanswer⟩

/-! ### Completion -/

/-- **Unfinished texts are completed** by the number of parentheses that they open more than they
close: by so many closing ones, and no other number of them, if one is expected at the end, and by
any literal that denotes a number and so many closing ones if an operand is expected there. -/
theorem unfinished_text_completed (s : String) :
    (∀ found n, evaluate s = .error (.expectedClosing found n) →
      ∃ d : Nat, balance s.toList = d ∧ 1 ≤ d ∧
        (∃ v, evaluate (closedBy s d) = .ok v) ∧
        (∀ j < d, evaluate (closedBy s j) = .error (.expectedClosing none (s.length + j))) ∧
        ∀ j > d, evaluate (closedBy s j) = .error (.unexpectedCharacter ')' (s.length + d))) ∧
    ((∃ n, evaluate s = .error (.unexpectedEnd n)) ∨ s.toList.all isBlank = true →
      ∃ d : Nat, balance s.toList = d ∧
        ∀ x : String, Literal.IsValid x.toList → ∃ v, evaluate (closedBy (s ++ x) d) = .ok v) := by
  refine ⟨fun found n h => ?_, LacksOperand.completed⟩
  obtain ⟨sum, product, stack, hpos, hbalance, hanswer⟩ := exists_unclosed h
  refine ⟨stack.length, hbalance, hpos, ?_, fun j hj => ?_, fun j hj => ?_⟩
  · obtain ⟨v, hv⟩ := exists_answer_closing sum product stack s.length
    exact ⟨v, (hanswer _).trans hv⟩
  · rw [hanswer, answer_closings_lt hj]
  · rw [hanswer, answer_closings_gt hj]

theorem unfinished_text_completed_two_open :
    evaluate "(2*(3+ 4" = .error (.expectedClosing none 8) ∧
      (∃ v, evaluate (closedBy "(2*(3+ 4" 2) = .ok v) ∧
      evaluate "(2*(" = .error (.unexpectedEnd 4) ∧
      ∃ v, evaluate (closedBy ("(2*(" ++ ".5") 2) = .ok v := by
  have hclosing : evaluate "(2*(3+ 4" = .error (.expectedClosing none 8) := rfl
  have hend : evaluate "(2*(" = .error (.unexpectedEnd 4) := rfl
  obtain ⟨d, hd, -, hvalue, -⟩ := (unfinished_text_completed "(2*(3+ 4").1 none 8 hclosing
  obtain ⟨e, he, hvalue'⟩ := (unfinished_text_completed "(2*(").2 (.inl ⟨4, hend⟩)
  obtain rfl : 2 = d := Int.ofNat.inj hd
  obtain rfl : 2 = e := Int.ofNat.inj he
  exact ⟨hclosing, hvalue, hend, hvalue' ".5" (by decide)⟩

end SumProduct
