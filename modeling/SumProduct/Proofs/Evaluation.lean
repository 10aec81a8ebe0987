import SumProduct.Reading

/-!
# Evaluation of a text

The two ways an evaluation goes: a text of blanks is refused, and any other text is read
as an expression up to its end.
-/

namespace SumProduct

/-- Asking for the end of the text does not move on. -/
theorem Outcome.place_ended (o : Outcome) : o.ended.place = o.place := by
  rcases o with ⟨_ | _, ⟨_, _ | _⟩, _⟩ <;> rfl

theorem Reading.evaluate_of_blank {r : Reading} (h : r.text.all isBlank = true) :
    r.evaluate.result = .error (.expectedNumber none r.text.length) := by
  rw [evaluate, if_pos (show r.IsBlank from h)]
  rfl

theorem Reading.not_isBlank {r : Reading} (h : r.text.all isBlank = false) : ¬ r.IsBlank :=
  fun hb => Bool.noConfusion (h.symm.trans hb)

theorem Reading.evaluate_eq_conclusion {r : Reading} (h : r.text.all isBlank = false) :
    r.evaluate = r.conclusion (r.run .expression) :=
  if_neg (not_isBlank h)

theorem Reading.evaluate_of_not_blank {r : Reading} (h : r.text.all isBlank = false) :
    r.evaluate.result = (r.run .expression).ended.result := by
  rw [evaluate_eq_conclusion h]
  rfl

theorem evaluate_of_blank {s : String} (h : s.toList.all isBlank = true) :
    evaluate s = .error (.expectedNumber none s.toList.length) :=
  Reading.evaluate_of_blank (r := .ofString s) h

theorem evaluate_of_not_blank {s : String} (h : s.toList.all isBlank = false) :
    evaluate s = (Rule.expression.run (.start s.toList)).ended.result :=
  Reading.evaluate_of_not_blank (r := .ofString s) h

/-- Only a text of blanks is refused. -/
theorem not_blank_of_evaluate_ne {s : String}
    (h : evaluate s ≠ .error (.expectedNumber none s.toList.length)) :
    s.toList.all isBlank = false := by
  cases hb : s.toList.all isBlank with
  | false => rfl
  | true => exact absurd (evaluate_of_blank hb) h

theorem Reading.place_ofString (s : String) : (ofString s).place = .start s.toList := rfl

/-- An evaluation stops where the rule for expressions does. -/
theorem place_evaluate {s : String} (h : s.toList.all isBlank = false) :
    (Reading.ofString s).evaluate.place = (Rule.expression.run (.start s.toList)).place := by
  rw [Reading.evaluate_eq_conclusion (r := .ofString s) h]
  exact Outcome.place_ended _

/-- What an evaluation reports of a text that is not blank. -/
theorem events_evaluate {s : String} (h : s.toList.all isBlank = false) :
    (Reading.ofString s).evaluate.trace.events =
      .evaluating s :: ((Rule.expression.run (.start s.toList)).trace.events ++
        [Event.ofResult (evaluate s)]) := by
  have htext : String.ofList (Reading.ofString s).text = s := String.ofList_toList
  rw [evaluate_of_not_blank h, Reading.evaluate_eq_conclusion (r := .ofString s) h]
  simp only [Reading.conclusion, Reading.opening, htext, Trace.events_append, Trace.events_single,
    List.cons_append, List.nil_append]
  rfl

/-- A literal that an evaluation reports is read by the rule for expressions. -/
theorem Reading.scanned_mem_run {r : Reading} {literal : String} {n : Nat}
    (h : .scanned literal n ∈ r.evaluate.trace.events) :
    .scanned literal n ∈ (r.run .expression).trace.events := by
  rw [evaluate] at h
  split at h
  · simp [refusal, opening] at h
  · generalize hresult : (r.run .expression).ended.result = result at h
    cases result <;> simpa [conclusion, opening, Event.ofResult, hresult] using h

/-- Reading to the end comes to a value if reading comes to it and the end is reached. -/
theorem Outcome.ended_eq_ok_iff {o : Outcome} {value : Binary64} :
    o.ended.result = .ok value ↔ o.result = .ok value ∧ o.place.rest = [] := by
  rcases o with ⟨fault | v, ⟨n, _ | ⟨c, rest⟩⟩, trace⟩ <;>
    simp [Outcome.ended, Outcome.withResult, Place.peek?]

/-- Reading to the end comes to the fault that reading comes to. -/
theorem Outcome.ended_of_error {o : Outcome} {fault : Fault} (h : o.result = .error fault) :
    o.ended.result = .error fault := by
  rw [Outcome.ended, h]
  exact h

/-- Where reading comes to a value, reading to the end comes to it too, or to the character that is
in the way. -/
theorem Outcome.ended_eq_ok_or {o : Outcome} {value : Binary64} (h : o.result = .ok value) :
    o.ended.result = .ok value ∨
      ∃ c, o.place.peek? = some c ∧
        o.ended.result = .error (.unexpectedCharacter c o.place.position) := by
  rcases o with ⟨result, place, trace⟩
  obtain rfl : result = .ok value := h
  cases hpeek : place.peek? with
  | none => exact .inl (by simp [ended, hpeek])
  | some c => exact .inr ⟨c, rfl, by simp [ended, hpeek, withResult]⟩

end SumProduct
