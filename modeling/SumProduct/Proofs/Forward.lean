import SumProduct.Proofs.Course
import SumProduct.Proofs.Evaluation
import SumProduct.Proofs.Places

/-!
# Rules look only forward

What comes before a place does not count for the rules that read on from it: with `n` more
characters in front they come to the same value, or to the same fault `n` characters further on,
stop `n` characters further on and report the same events there (`Yields.moveBy`). Nothing else
of the text in front is seen.

The evaluation of what is left of a text has one exception, as it asks of the whole text whether
there are only blanks in it (`rules_look_only_forward`).
-/

namespace SumProduct

/-! ### Events and tasks further on -/

/-- The event with `n` more characters before it. -/
@[simp] def Event.moveBy (n : Nat) : Event → Event
  | .evaluating text => .evaluating text
  | .rejectedBlank fault => .rejectedBlank (fault.moveBy n)
  | .entered rule position => .entered rule (n + position)
  | .advanced position => .advanced (n + position)
  | .scanned literal start => .scanned literal (n + start)
  | .finished value => .finished value
  | .failed fault => .failed (fault.moveBy n)

/-- The task with `n` more characters before it. -/
@[simp] def Task.moveBy (n : Nat) : Task → Task
  | .factor p => .factor (p.moveBy n)
  | .operands op p => .operands op (p.moveBy n)
  | .more op first p => .more op (first.mapError (Fault.moveBy n)) (p.moveBy n)

section

variable (n : Nat) (p : Place)

@[simp] theorem Operator.operand_moveBy (op : Operator) :
    op.operand (p.moveBy n) = (op.operand p).moveBy n := by
  cases op <;> rfl

theorem Rule.task_moveBy (rule : Rule) : rule.task (p.moveBy n) = (rule.task p).moveBy n := by
  cases rule <;> rfl

@[simp] theorem Place.literalResult_moveBy :
    (p.moveBy n).literalResult = p.literalResult.mapError (Fault.moveBy n) := by
  rw [literalResult, literalResult, literal_moveBy]
  cases Literal.value p.literal <;> rfl

@[simp] theorem Place.blankEvents_moveBy :
    (p.moveBy n).blankEvents = p.blankEvents.map (Event.moveBy n) := by
  have hrange : List.range' (n + p.position + 1) p.blanks =
      (List.range' (p.position + 1) p.blanks).map (n + ·) := by
    rw [List.map_add_range', Nat.add_assoc]
  rw [blankEvents, blankEvents, position_moveBy, blanks_moveBy, hrange, List.map_map, List.map_map]
  rfl

@[simp] theorem Place.factorEvents_moveBy :
    (p.moveBy n).factorEvents = p.factorEvents.map (Event.moveBy n) := by
  simp [factorEvents]

end

/-! ### Rules -/

/-- **A text in front** changes nothing for a task but positions. -/
theorem Yields.moveBy (n : Nat) {t : Task} {result : Except Fault Binary64} {q : Place}
    {es : List Event} (h : Yields t result q es) :
    Yields (t.moveBy n) (result.mapError (Fault.moveBy n)) (q.moveBy n)
      (es.map (Event.moveBy n)) := by
  induction h with
  | @ended p h => simpa using Yields.ended (p := p.moveBy n) (by simpa using h)
  | @noNumber p c h hp hl =>
    simpa using Yields.noNumber (p := p.moveBy n) (by simpa using h) hp hl
  | @literal p c h hl => simpa using Yields.literal (p := p.moveBy n) (by simpa using h) hl
  | @innerFault p fault q es h _ ih =>
    simpa using Yields.innerFault (p := p.moveBy n) (by simpa using h) (by simpa using ih)
  | @closed p value q es h _ hq ih =>
    simpa using Yields.closed (p := p.moveBy n) (q := q.moveBy n) (by simpa using h)
      (by simpa using ih) (by simpa using hq)
  | @unclosed p value q es h _ hq ih =>
    simpa using Yields.unclosed (p := p.moveBy n) (q := q.moveBy n) (by simpa using h)
      (by simpa using ih) (by simpa using hq)
  | @operands op p first q es result r fs _ _ ih₁ ih₂ =>
    simpa using Yields.operands (p := p.moveBy n) (by simpa using ih₁) ih₂
  | fault => exact .fault
  | @stop op value p h => simpa using Yields.stop (p := p.moveBy n) (by simpa using h)
  | @next op value p operand q es result r fs h _ _ ih₁ ih₂ =>
    simpa using Yields.next (p := p.moveBy n) (by simpa using h) (by simpa using ih₁)
      (by simpa using ih₂)
  | @unexpected op value p c h h₁ h₂ h₃ =>
    simpa using Yields.unexpected (p := p.moveBy n) (by simpa using h) h₁ h₂ h₃

/-- What a rule comes to with `n` more characters before the place. -/
theorem Rule.run_moveBy (n : Nat) (rule : Rule) (p : Place) :
    (rule.run (p.moveBy n)).result = (rule.run p).result.mapError (Fault.moveBy n) ∧
      (rule.run (p.moveBy n)).place = (rule.run p).place.moveBy n ∧
      (rule.run (p.moveBy n)).trace.events = (rule.run p).trace.events.map (Event.moveBy n) := by
  have h := (rule.yields_run p).moveBy n
  rw [← rule.task_moveBy] at h
  exact yields_iff_run.1 h

/-! ### Evaluation -/

/-- There is no expression in blanks. -/
theorem run_expression_of_blank (n : Nat) {text : List Char} (h : text.all isBlank = true) :
    (Rule.expression.run ⟨n, text⟩).result = .error (.unexpectedEnd (n + text.length)) := by
  have hskip : Place.skipBlanks ⟨n, text⟩ = ⟨n + text.length, []⟩ := by
    simpa using Place.skipBlanks_append n h .nil
  have factor := Yields.ended (p := ⟨n, text⟩) (by rw [hskip]; rfl)
  rw [hskip] at factor
  have term : Yields (.operands .times ⟨n, text⟩) _ _ _ := .operands factor .fault
  have expression : Yields (Rule.expression.task ⟨n, text⟩) _ _ _ := .operands term .fault
  exact (yields_iff_run.1 expression).1

/-- The end of the text is asked for in the same way. -/
theorem Outcome.ended_moveBy {o o' : Outcome} {n : Nat}
    (hr : o'.result = o.result.mapError (Fault.moveBy n)) (hp : o'.place = o.place.moveBy n) :
    o'.ended.result = o.ended.result.mapError (Fault.moveBy n) := by
  rcases o with ⟨fault | value, ⟨m, _ | ⟨c, rest⟩⟩, trace⟩ <;>
    simp_all [ended, withResult, Place.peek?]

/-- The place of a reading of a text with another text in front. -/
theorem Reading.place_append (before text : List Char) (k : Nat) :
    Reading.place ⟨before ++ text, before.length + k⟩ =
      (Reading.place ⟨text, k⟩).moveBy before.length := by
  rw [place, place, List.drop_length_add_append]
  rfl

/-- The evaluation of what is left behind a text. -/
theorem evaluate_behind (before text : List Char) :
    (Reading.evaluate ⟨before ++ text, before.length⟩).result =
      if text.all isBlank = true ∧ before.all isBlank = false then
        .error (.unexpectedEnd (before.length + text.length))
      else (Reading.evaluate ⟨text, 0⟩).result.mapError (Fault.moveBy before.length) := by
  have hplace := Reading.place_append before text 0
  rw [Nat.add_zero] at hplace
  have hall : (before ++ text).all isBlank = (before.all isBlank && text.all isBlank) :=
    List.all_append
  cases hb : text.all isBlank with
  | false =>
    rw [hb, Bool.and_false] at hall
    rw [Reading.evaluate_of_not_blank hall, Reading.evaluate_of_not_blank hb, if_neg (by simp)]
    obtain ⟨hresult, hend, -⟩ := Rule.expression.run_moveBy before.length (Reading.place ⟨text, 0⟩)
    rw [← hplace] at hresult hend
    exact Outcome.ended_moveBy hresult hend
  | true =>
    cases hbefore : before.all isBlank with
    | true =>
      rw [hb, hbefore] at hall
      rw [Reading.evaluate_of_blank hall, Reading.evaluate_of_blank hb, if_neg (by simp)]
      simp
    | false =>
      rw [hb, hbefore] at hall
      have hrun : (Reading.run ⟨before ++ text, before.length⟩ .expression).result =
          .error (.unexpectedEnd (before.length + text.length)) := by
        rw [Reading.run, hplace]
        exact run_expression_of_blank before.length hb
      rw [Reading.evaluate_of_not_blank hall, if_pos (by simp)]
      exact Outcome.ended_of_error hrun

/-- **Rules look only forward**: with a text in front a rule comes to the same outcome that much
further on. So does an evaluation of the rest behind the text in front, unless the rest is blank
and the text in front is not: then the end is unexpected. -/
theorem rules_look_only_forward (before text : String) :
    (∀ (rule : Rule) (k : Nat),
      let alone := Reading.run ⟨text.toList, k⟩ rule
      let behind := Reading.run ⟨(before ++ text).toList, before.length + k⟩ rule
      behind.result = alone.result.mapError (Fault.moveBy before.length) ∧
        behind.place = alone.place.moveBy before.length ∧
        behind.trace.events = alone.trace.events.map (Event.moveBy before.length)) ∧
    (Reading.evaluate ⟨(before ++ text).toList, before.length⟩).result =
      if text.toList.all isBlank = true ∧ before.toList.all isBlank = false then
        .error (.unexpectedEnd (before.length + text.length))
      else (evaluate text).mapError (Fault.moveBy before.length) := by
  simp only [String.toList_append, ← String.length_toList]
  refine ⟨fun rule k => ?_, evaluate_behind before.toList text.toList⟩
  simp only [Reading.run, Reading.place_append]
  exact rule.run_moveBy _ _

end SumProduct
