import SumProduct.Proofs.Course

/-!
# The walk of a descent

The events of a descent say where it is all the time: `Walks p es q` follows the events from
the place `p` and ends at `q`. A rule is entered where the walk is, an advance goes past one
character, and a literal that is read is the longest run of digits and points at the place and
is passed as a whole. Every task walks, with its events, from where it begins to where it stops
(`Yields.walks`), whatever it comes to.
-/

namespace SumProduct

/-- A character that is passed on its own. -/
def IsPassed (c : Char) : Prop := isBlank c = true ∨ c = '+' ∨ c = '*' ∨ c = '(' ∨ c = ')'

theorem Operator.isPassed_symbol (op : Operator) : IsPassed op.symbol := by
  cases op with
  | plus => exact .inr (.inl rfl)
  | times => exact .inr (.inr (.inl rfl))

/-- The events lead from one place to another. -/
inductive Walks : Place → List Event → Place → Prop
  /-- Nothing happens. -/
  | nil {p} : Walks p [] p
  /-- A rule is entered. -/
  | entered {rule p es q} (later : Walks p es q) : Walks p (.entered rule p.position :: es) q
  /-- A character is passed. -/
  | advanced {p c es q} (h : p.peek? = some c) (hc : IsPassed c) (later : Walks p.advance es q) :
    Walks p (.advanced p.advance.position :: es) q
  /-- A literal is passed. -/
  | scanned {p es q} (h : p.literal ≠ []) (later : Walks p.skipLiteral es q) :
    Walks p (.scanned (String.ofList p.literal) p.position :: es) q

namespace Walks

variable {p q r : Place} {es fs : List Event}

theorem append (h₁ : Walks p es q) (h₂ : Walks q fs r) : Walks p (es ++ fs) r := by
  induction h₁ with
  | nil => exact h₂
  | entered _ ih => exact .entered (ih h₂)
  | advanced h hc _ ih => exact .advanced h hc (ih h₂)
  | scanned h _ ih => exact .scanned h (ih h₂)

theorem advance {c : Char} (h : p.peek? = some c) (hc : IsPassed c) :
    Walks p [.advanced p.advance.position] p.advance := .advanced h hc .nil

/-- The blanks are passed one by one. -/
theorem blanks (p : Place) : Walks p p.blankEvents p.skipBlanks := by
  rcases p with ⟨n, rest⟩
  induction rest generalizing n with
  | nil => exact .nil
  | cons c rest ih =>
    cases hc : isBlank c with
    | false =>
      have hb : NoneFirst isBlank (c :: rest) := .cons hc
      rw [Place.skipBlanks_eq_self hb, Place.blankEvents, Place.blanks, hb.takeWhile_eq_nil]
      exact .nil
    | true =>
      have hevents : Place.blankEvents ⟨n, c :: rest⟩ =
          .advanced (n + 1) :: Place.blankEvents ⟨n + 1, rest⟩ := by
        simp [Place.blankEvents, Place.blanks, hc, List.range'_succ]
      rw [hevents, Place.skipBlanks_cons hc]
      exact .advanced rfl (.inl hc) (ih (n + 1))

theorem factorEvents (p : Place) : Walks p p.factorEvents p.skipBlanks :=
  (blanks p).append (.entered .nil)

theorem leadsTo (h : Walks p es q) : p.LeadsTo q := by
  induction h with
  | nil => exact .refl _
  | entered _ ih => exact ih
  | advanced _ _ _ ih => exact (Place.LeadsTo.advance _).trans ih
  | scanned _ _ ih => exact (Place.LeadsTo.skipLiteral _).trans ih

end Walks

/-- Where the event happens, as far as the event tells. -/
def Event.HappensAt (s : Place) : Event → Prop
  | .entered _ n => n = s.position
  | .advanced n => n = s.advance.position
  | .scanned literal n => n = s.position ∧ literal = String.ofList s.literal
  | .evaluating _ | .rejectedBlank _ | .finished _ | .failed _ => False

/-- Every event happens at a place on the way. -/
theorem Walks.exists_happensAt {p q : Place} {es : List Event} (h : Walks p es q) {e : Event}
    (he : e ∈ es) : ∃ s, p.LeadsTo s ∧ s.LeadsTo q ∧ e.HappensAt s := by
  induction h with
  | nil => exact nomatch he
  | entered later ih =>
    rcases List.mem_cons.1 he with rfl | he
    · exact ⟨_, .refl _, later.leadsTo, rfl⟩
    · exact ih he
  | advanced _ _ later ih =>
    rcases List.mem_cons.1 he with rfl | he
    · exact ⟨_, .refl _, (Place.LeadsTo.advance _).trans later.leadsTo, rfl⟩
    · obtain ⟨s, hps, hs⟩ := ih he
      exact ⟨s, (Place.LeadsTo.advance _).trans hps, hs⟩
  | scanned _ later ih =>
    rcases List.mem_cons.1 he with rfl | he
    · exact ⟨_, .refl _, (Place.LeadsTo.skipLiteral _).trans later.leadsTo, rfl, rfl⟩
    · obtain ⟨s, hps, hs⟩ := ih he
      exact ⟨s, (Place.LeadsTo.skipLiteral _).trans hps, hs⟩

/-- **The walk of a task**: its events lead from where it begins to where it stops. -/
theorem Yields.walks {t : Task} {result : Except Fault Binary64} {q : Place} {es : List Event}
    (h : Yields t result q es) : Walks t.place es q := by
  induction h with
  | ended _ | noNumber _ _ _ => exact .factorEvents _
  | @literal p c h hl =>
    exact (Walks.factorEvents p).append (.scanned (Place.literal_ne_nil h hl) .nil)
  | innerFault h _ ih => exact (Walks.factorEvents _).append (.advanced h (by simp [IsPassed]) ih)
  | closed h _ hq ih =>
    rw [List.append_assoc]
    exact (Walks.factorEvents _).append
      (.advanced h (by simp [IsPassed]) (ih.append (.advance hq (by simp [IsPassed]))))
  | unclosed h _ _ ih => exact (Walks.factorEvents _).append (.advanced h (by simp [IsPassed]) ih)
  | operands _ _ ih₁ ih₂ =>
    rw [Operator.place_operand] at ih₁
    exact .entered (ih₁.append ih₂)
  | fault => exact .nil
  | stop _ | unexpected _ _ _ _ => exact .blanks _
  | @next op _ _ _ _ _ _ _ _ h _ _ ih₁ ih₂ =>
    rw [Operator.place_operand] at ih₁
    rw [List.append_assoc]
    exact (Walks.blanks _).append (.advanced h op.isPassed_symbol (ih₁.append ih₂))

end SumProduct
