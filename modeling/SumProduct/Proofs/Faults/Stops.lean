import SumProduct.Proofs.Faults.Origins
import SumProduct.Proofs.Grammar.Texts
import SumProduct.Reading

/-!
# Where a fault leaves the reading

A rule that fails leaves the reading where the fault was found, however deep in parentheses
that was: nothing is read after a fault, and nothing is taken back. So the fault says where the
reading is. A fault of the syntax names the position and the next character, and a bad literal
is what lies between the position that the fault names and the one where the reading is
(`fault_tells_where_reading_is`).
-/

namespace SumProduct

/-! ### Bad literals -/

/-- A literal that denotes no number has no digit or more than one point. -/
theorem Literal.no_digit_or_points {s : List Char} {defect : Defect}
    (h : value s = .error defect) (hs : s.all isLiteralChar = true) :
    s.any Char.isDigit = false ∨ 1 < s.count '.' := by
  have hbad : ¬ IsValid s := by
    intro hvalid
    exact nomatch (value_eq_ok_iff.2 ⟨hvalid, rfl⟩).symm.trans h
  by_cases hdigit : s.any Char.isDigit = true
  · exact .inr (Nat.lt_of_not_le fun hcount => hbad ⟨hs, hdigit, hcount⟩)
  · exact .inl (by simpa using hdigit)

/-! ### Where the fault is found -/

/-- Reading on from `p` is stopped at `q` by the fault. -/
def Fault.StopsAt (p q : Place) (fault : Fault) : Prop :=
  match fault with
  | .badLiteral literal n defect => ∃ s : Place, p.LeadsTo s ∧ s.position = n ∧
      String.ofList s.literal = literal ∧ s.literal ≠ [] ∧
      Literal.value s.literal = .error defect ∧ s.skipLiteral = q
  | fault => fault.position = q.position ∧ fault.character? = q.peek?

theorem Fault.StopsAt.after {fault : Fault} {p p' q : Place} (h : fault.StopsAt p' q)
    (hp : p.LeadsTo p') : fault.StopsAt p q := by
  cases fault with
  | badLiteral literal n defect =>
    obtain ⟨s, hs, hstop⟩ := h
    exact ⟨s, hp.trans hs, hstop⟩
  | unexpectedCharacter _ _ | unexpectedEnd _ | expectedClosing _ _ | expectedNumber _ _ => exact h

theorem Arises.stopsAt {fault : Fault} {s q : Place} (h : Arises fault s q) : fault.StopsAt s q := by
  cases h with
  | ended h | noNumber h _ _ _ | unclosed h | unexpected h _ _ _ _ => exact ⟨rfl, h.symm⟩
  | badLiteral h hl hv => exact ⟨s, .refl s, rfl, rfl, Place.literal_ne_nil h hl, hv, rfl⟩

/-- The fault stops the task, unless the task has it from before. -/
def Task.IsStopped (fault : Fault) (q : Place) : Task → Prop
  | .more _ (.error _) _ => True
  | t => fault.StopsAt t.place q

theorem Task.IsStopped.task {rule : Rule} {fault : Fault} {p q : Place}
    (h : (rule.task p).IsStopped fault q) : fault.StopsAt p q := by
  cases rule <;> exact h

/-- A task that comes to a fault has been stopped by it. -/
theorem Yields.isStopped {t : Task} {result : Except Fault Binary64} {q : Place} {es : List Event}
    (h : Yields t result q es) {fault : Fault} (hf : result = .error fault) :
    t.IsStopped fault q := by
  rcases h.arises hf with hcarries | ⟨s, hs, harises⟩
  · match t, hcarries with
    | .more _ (.error _) _, _ => exact trivial
  · have hstop := harises.stopsAt.after hs
    match t, hstop with
    | .factor _, hstop | .operands _ _, hstop | .more _ (.ok _) _, hstop => exact hstop
    | .more _ (.error _) _, _ => exact trivial

/-- **A fault tells where the reading is**: after a fault of the syntax it is at the position
and before the character that the fault names, and after a bad literal it is right behind it,
and the literal is what has been passed from the position that the fault names. -/
theorem fault_tells_where_reading_is {r : Reading} {rule : Rule} {fault : Fault}
    (h : (r.run rule).result = .error fault) :
    let after := r.moveTo (r.run rule).place
    (fault.IsSyntax → fault.position = after.position ∧ fault.character? = after.peek?) ∧
      ∀ literal n defect, fault = .badLiteral literal n defect →
        after.position = n + literal.length ∧
        literal.toList = (r.text.drop n).take (after.position - n) ∧
        literal ≠ "" ∧ literal.toList.all isLiteralChar = true ∧
        (∀ c, after.peek? = some c → isLiteralChar c = false) ∧
        (literal.toList.any Char.isDigit = false ∨ 1 < literal.toList.count '.') := by
  have hrun := rule.yields_run r.place
  have hrest : (r.run rule).place.rest = r.text.drop (r.run rule).place.position :=
    (rule.leadsTo_run r.place).rest_eq_drop rfl
  have hpeek : (r.moveTo (r.run rule).place).peek? = (r.run rule).place.peek? := by
    rw [Place.peek?, hrest]
    rfl
  have hstop : fault.StopsAt r.place (r.run rule).place := (hrun.isStopped h).task
  dsimp only
  rw [hpeek]
  refine ⟨fun hs => ?_, ?_⟩
  · cases fault with
    | badLiteral _ _ _ => exact hs.elim
    | _ => exact hstop
  · rintro literal n defect rfl
    obtain ⟨s, hs, rfl, rfl, hne, hvalue, hq⟩ := hstop
    have hall : s.literal.all isLiteralChar = true := List.all_takeWhile
    have hlen : (String.ofList s.literal).length = s.literal.length := by
      rw [← String.length_toList, String.toList_ofList]
    have htext : r.text.drop s.position = s.literal ++ s.skipLiteral.rest := by
      rw [← hs.rest_eq_drop rfl]
      exact List.takeWhile_append_dropWhile.symm
    have hpos : (r.moveTo (r.run rule).place).position = s.position + s.literal.length :=
      congrArg Place.position hq.symm
    rw [hpos, hlen, String.toList_ofList, htext, Nat.add_sub_cancel_left, List.take_left]
    refine ⟨rfl, rfl, fun h => hne ?_, hall, fun c hc => ?_, Literal.no_digit_or_points hvalue hall⟩
    · rw [← String.toList_ofList (l := s.literal), h]
      rfl
    · have hnone : NoneFirst isLiteralChar s.skipLiteral.rest := .dropWhile
      exact hnone c (hq ▸ hc)

theorem fault_tells_where_reading_is_after_points :
    (Reading.run ⟨"7*(1.2.3+".toList, 2⟩ .factor).result = .error (.badLiteral "1.2.3" 3 .malformed) ∧
      (Reading.run ⟨"7*(1.2.3+".toList, 2⟩ .factor).place.position = 3 + "1.2.3".length := by
  have h : (Reading.run ⟨"7*(1.2.3+".toList, 2⟩ .factor).result =
      .error (.badLiteral "1.2.3" 3 .malformed) := rfl
  exact ⟨h, ((fault_tells_where_reading_is h).2 _ _ _ rfl).1⟩

end SumProduct
