import SumProduct.Proofs.Faults.Earliest
import SumProduct.Proofs.StackMachine.Splicing
import SumProduct.Proofs.StackMachine.Agreement
import SumProduct.Proofs.StackMachine.Tokens

/-!
# Literals and expressions of the same value

Wherever a literal is read, an expression of the same value in parentheses could stand instead:
the text has the same value with it, or the same fault, moved by what the text has become longer
or shorter (`evaluate_substituted`).

With the machine, both texts are read in the same way up to the literal, where an operand is
expected (`exists_operand_of_scanned`). Both operands lead to the same configuration behind them
(`steps_parenthesised` for the one in parentheses, as an expression is read in parentheses as it
is read alone), and what is left of the text is the same.
-/

namespace SumProduct

open StackMachine StackMachine.Machine

/-! ### The operand -/

/-- A literal that an evaluation reads stands where an operand is expected, whatever comes there,
and does not go on in the text behind it. -/
theorem exists_operand_of_scanned {a l b : String}
    (h : .scanned l a.length ∈ (Reading.ofString (a ++ l ++ b)).evaluate.trace.events) :
    NoneFirst isLiteralChar b.toList ∧ ∃ frame stack, ∀ r,
      Steps (start (a.toList ++ r)) ⟨.operand frame, stack, ⟨a.length, r⟩⟩ := by
  have htext : (a ++ l ++ b).toList = a.toList ++ (l.toList ++ b.toList) := by
    rw [String.toList_append, String.toList_append, List.append_assoc]
  have hmem := Reading.scanned_mem_run h
  rw [Reading.run, Reading.place_ofString] at hmem
  obtain ⟨frame, stack, p, hsteps, hpos, hl⟩ :=
    meets_of_yields (Rule.expression.yields_run _) hmem .empty [] rfl
  obtain ⟨u, ⟨hu, hpos'⟩, hsplice⟩ := hsteps.splice_operand
  -- as many characters come before the literal as before the place
  have hlength : a.toList.length = u.length := by
    rw [String.length_toList, ← hpos, hpos']
    exact Nat.zero_add _
  obtain ⟨rfl, hrest⟩ := List.append_inj (htext.symm.trans hu) hlength
  have hliteral : l.toList = p.literal := by rw [← hl, String.toList_ofList]
  have hb : b.toList = p.skipLiteral.rest := by
    refine List.append_cancel_left (hrest.trans ?_)
    rw [hliteral]
    exact List.takeWhile_append_dropWhile.symm
  refine ⟨?_, frame, stack, fun r => ?_⟩
  · rw [hb]
    exact .dropWhile
  · rw [← hpos]
    exact hsplice r

/-- The machine reads a text that has a value to its end, whatever comes after it. -/
theorem exists_steps_of_ok {e : String} {w : Binary64} (h : evaluate e = .ok w) :
    ∃ sum product, total sum product = w ∧ ∀ r, NoneFirst isLiteralChar r →
      Steps (start (e.toList ++ r)) ⟨.operator sum product, [], ⟨e.length, r⟩⟩ := by
  have hb : e.toList.all isBlank = false := not_blank_of_evaluate_ne (by simp [h])
  obtain ⟨m, hsteps, hhalt⟩ := answer_eq_iff.1 ((evaluate_eq_answer hb).symm.trans h)
  cases hhalt with
  | @value sum product p hp =>
    obtain ⟨hpos, hreach⟩ := Reaches.of_steps_end hsteps hp
    refine ⟨sum, product, rfl, fun r hr => ?_⟩
    rw [← String.length_toList, ← hpos]
    exact hreach r fun _ => hr

/-- **In parentheses** a text that has a value is an operand of that value. -/
theorem steps_parenthesised {e : String} {w : Binary64} (h : evaluate e = .ok w) (frame : Frame)
    (stack : List Frame) (n : Nat) (x : List Char) :
    Steps ⟨.operand frame, stack, ⟨n, '(' :: (e.toList ++ ')' :: x)⟩⟩
      ⟨.operator frame.sum (frame.times w), stack, ⟨n + (e.length + 2), x⟩⟩ := by
  obtain ⟨sum, product, rfl, hsteps⟩ := exists_steps_of_ok h
  have hinner := Steps.embed (hsteps (')' :: x) (.cons (by decide))) (frame :: stack) (n + 1)
  have hend : Place.advance ⟨n + 1 + e.length, ')' :: x⟩ = ⟨n + (e.length + 2), x⟩ := by
    rw [Place.advance_cons]
    congr 1
    omega
  have hclose : Moves ⟨.operator sum product, frame :: stack, ⟨n + 1 + e.length, ')' :: x⟩⟩
      ⟨.operator frame.sum (frame.times (total sum product)), stack, _⟩ := .closes rfl
  rw [hend] at hclose
  exact .head (.opens rfl) (.tail hinner hclose)

/-! ### The text behind the operand -/

/-- Results of two texts that differ in length before the same rest: a value is the same, and a
fault is moved by the difference. -/
theorem answer_of_same_rest (mode : Mode) (stack : List Frame) (x : List Char) (n m : Nat) :
    (∀ v, answer ⟨mode, stack, ⟨n, x⟩⟩ = .ok v → answer ⟨mode, stack, ⟨m, x⟩⟩ = .ok v) ∧
      ∀ fault, answer ⟨mode, stack, ⟨n, x⟩⟩ = .error fault →
        ∃ k, k + n = fault.position + m ∧
          answer ⟨mode, stack, ⟨m, x⟩⟩ = .error (fault.moveTo k) := by
  have hn : answer ⟨mode, stack, ⟨n, x⟩⟩ = _ := answer_moveBy mode stack n ⟨0, x⟩
  have hm : answer ⟨mode, stack, ⟨m, x⟩⟩ = _ := answer_moveBy mode stack m ⟨0, x⟩
  rw [hn, hm]
  cases answer ⟨mode, stack, ⟨0, x⟩⟩ with
  | ok value => exact ⟨fun v h => h, nofun⟩
  | error fault =>
    refine ⟨nofun, fun f hf => ?_⟩
    obtain rfl := Except.error.inj hf
    refine ⟨m + fault.position, ?_, ?_⟩
    · rw [Fault.moveBy_eq_moveTo, Fault.position_moveTo]
      omega
    · rw [mapError_error, Fault.moveBy_eq_moveTo, Fault.moveBy_eq_moveTo, Fault.moveTo_moveTo]

/-! ### Evaluation -/

/-- **Substitution**: where a literal is read, an expression of its value in parentheses comes to
the same value of the whole text, or to the same fault, moved by the difference in length. -/
theorem evaluate_substituted {a l b e : String} {w : Binary64}
    (hscan : .scanned l a.length ∈ (Reading.ofString (a ++ l ++ b)).evaluate.trace.events)
    (hl : Literal.value l.toList = .ok w) (he : evaluate e = .ok w) :
    (∀ v, evaluate (a ++ l ++ b) = .ok v → evaluate (a ++ "(" ++ e ++ ")" ++ b) = .ok v) ∧
      ∀ fault, evaluate (a ++ l ++ b) = .error fault →
        ∃ n : Nat, (n : Int) = fault.position + (e.length + 2 - l.length) ∧
          evaluate (a ++ "(" ++ e ++ ")" ++ b) = .error (fault.moveTo n) := by
  obtain ⟨hb, frame, stack, hsteps⟩ := exists_operand_of_scanned hscan
  obtain ⟨hvalid, -⟩ := Literal.value_eq_ok_iff.1 hl
  obtain ⟨c, rest, hcons, hc⟩ := hvalid.exists_eq_cons
  have hne : l.toList ≠ [] := hcons ▸ List.cons_ne_nil c rest
  have htext : (a ++ l ++ b).toList = a.toList ++ (l.toList ++ b.toList) := by
    simp only [String.toList_append, List.append_assoc]
  have htext' : (a ++ "(" ++ e ++ ")" ++ b).toList =
      a.toList ++ '(' :: (e.toList ++ ')' :: b.toList) := by
    simp [String.toList_append]
  have hblank : (a ++ l ++ b).toList.all isBlank = false := by
    simp [htext, hcons, Literal.isBlank_of_isLiteralChar hc]
  have hblank' : (a ++ "(" ++ e ++ ")" ++ b).toList.all isBlank = false := by
    simp [htext', isBlank_marks]
  have hread : Steps (start (a ++ l ++ b).toList) ⟨.operator frame.sum (frame.times w), stack,
      ⟨a.length + l.toList.length, b.toList⟩⟩ := by
    rw [htext]
    exact .tail (hsteps _) (moves_literal hne hvalid.1 hl hb frame stack _)
  have hread' : Steps (start (a ++ "(" ++ e ++ ")" ++ b).toList)
      ⟨.operator frame.sum (frame.times w), stack, ⟨a.length + (e.length + 2), b.toList⟩⟩ := by
    rw [htext']
    exact .trans (hsteps _) (steps_parenthesised he frame stack _ _)
  rw [evaluate_eq_answer hblank, evaluate_eq_answer hblank', hread.answer_eq, hread'.answer_eq]
  obtain ⟨hvalue, hfault⟩ := answer_of_same_rest (.operator frame.sum (frame.times w)) stack b.toList
    (a.length + l.toList.length) (a.length + (e.length + 2))
  refine ⟨hvalue, fun fault hf => ?_⟩
  obtain ⟨n, hn, h⟩ := hfault fault hf
  rw [String.length_toList] at hn
  exact ⟨n, by omega, h⟩

theorem evaluate_substituted_before_dollar :
    evaluate "2*(1.5+$" = .error (.expectedNumber (some '$') 7) ∧
      ∃ n : Nat, (n : Int) = 7 + (7 + 2 - 3) ∧
        evaluate "2*((1+.25*2)+$" = .error (.expectedNumber (some '$') n) := by
  have hfault : evaluate "2*(1.5+$" = .error (.expectedNumber (some '$') 7) := rfl
  have hscan : .scanned "1.5" "2*(".length ∈
      (Reading.ofString ("2*(" ++ "1.5" ++ "+$")).evaluate.trace.events := by decide +kernel
  have hl : Literal.value "1.5".toList = .ok (Literal.decimal "1.5".toList).toBinary64 := rfl
  have he : evaluate "1+.25*2" = .ok (Literal.decimal "1.5".toList).toBinary64 := by
    have hvalue : (evaluate "1+.25*2").toOption = some (Literal.decimal "1.5".toList).toBinary64 := by
      decide +kernel
    cases h : evaluate "1+.25*2" with
    | ok value =>
      rw [h] at hvalue
      exact congrArg _ (Option.some.inj hvalue)
    | error fault =>
      rw [h] at hvalue
      exact nomatch hvalue
  exact ⟨hfault, (evaluate_substituted hscan hl he).2 _ hfault⟩

end SumProduct
