import SumProduct.Proofs.StackMachine.Moves

/-!
# Texts spliced around the machine

The machine looks at no more of the text than it has passed and one character further. So
the text that is left can be exchanged for another one and the machine gets to the same
configuration before it, provided that a literal which ends there still ends there
(`Steps.splice`); and where it halts at a character or at a literal, it halts in the same
way before any other continuation (`Halts.splice_character`, `Halts.splice_literal`).

From every configuration some text leads to a value: what closes the open parentheses,
after an operand if one is missing (`exists_answer_closing`, `exists_completion`).
-/

namespace SumProduct.StackMachine.Machine

open Relation

/-- The machine with another text before it. -/
def withRest (m : Machine) (r : List Char) : Machine := { m with place := ⟨m.place.position, r⟩ }

/-- A literal that ends before the first text ends before the second one. -/
def Seam (x r : List Char) : Prop := NoneFirst isLiteralChar x → NoneFirst isLiteralChar r

theorem Seam.cons (c : Char) (x r : List Char) : Seam (c :: x) (c :: r) :=
  fun h => .cons h.of_cons

theorem Seam.append {x r : List Char} (h : Seam x r) (u : List Char) : Seam (u ++ x) (u ++ r) := by
  cases u with
  | nil => exact h
  | cons c u => exact .cons c _ _

/-! ### Moves and steps -/

theorem Moves.splice {m m' : Machine} (h : Moves m m') :
    ∃ u, m.place.Passes u m'.place ∧
      ∀ r, Seam m'.place.rest r → Moves (m.withRest (u ++ r)) (m'.withRest r) := by
  rcases m with ⟨mode, stack, n, _ | ⟨d, rest⟩⟩
  · obtain ⟨c, hc, -⟩ := h.step_eq
    exact nomatch hc
  cases h with
  | @literal frame _ _ _ _ h hl hv =>
    refine ⟨Place.literal ⟨n, d :: rest⟩, ⟨List.takeWhile_append_dropWhile.symm, rfl⟩, fun r hr => ?_⟩
    have hr : NoneFirst isLiteralChar r := hr .dropWhile
    have hmove := @Moves.literal frame stack _ _ _ (Place.peek?_append_literal h hl r) hl
      ((Place.literal_append_literal hr).symm ▸ hv)
    rwa [Place.skipLiteral_append_literal hr] at hmove
  | blank h hc => exact ⟨[d], ⟨rfl, rfl⟩, fun r _ => .blank h hc⟩
  | opens h => exact ⟨[d], ⟨rfl, rfl⟩, fun r _ => .opens h⟩
  | times h => exact ⟨[d], ⟨rfl, rfl⟩, fun r _ => .times h⟩
  | plus h => exact ⟨[d], ⟨rfl, rfl⟩, fun r _ => .plus h⟩
  | closes h => exact ⟨[d], ⟨rfl, rfl⟩, fun r _ => .closes h⟩

/-- **Splicing**: the machine gets to the same configuration before any other text that is
left, if no literal goes on in it. -/
theorem Steps.splice {m m' : Machine} (h : Steps m m') :
    ∃ u, m.place.Passes u m'.place ∧
      ∀ r, Seam m'.place.rest r → Steps (m.withRest (u ++ r)) (m'.withRest r) := by
  induction h using ReflTransGen.head_induction_on with
  | refl => exact ⟨[], ⟨rfl, rfl⟩, fun r _ => .refl⟩
  | head hmove _ ih =>
    obtain ⟨u, hu, hmoves⟩ := hmove.splice
    obtain ⟨v, hv, hsteps⟩ := ih
    refine ⟨u ++ v, hu.append hv, fun r hr => ?_⟩
    -- after the first move the texts differ only behind `v`
    have hmove' := hmoves (v ++ r) (hv.1 ▸ hr.append v)
    rw [List.append_assoc]
    exact .head hmove' (hsteps r hr)

/-! ### Before an operand -/

/-- A move that ends before an operand passes one character, and makes no difference of what
comes after it. -/
theorem Moves.splice_operand {m : Machine} {frame : Frame} {stack : List Frame} {p : Place}
    (h : Moves m ⟨.operand frame, stack, p⟩) :
    ∃ c, m.place.Passes [c] p ∧
      ∀ r, Moves (m.withRest (c :: r)) ⟨.operand frame, stack, ⟨p.position, r⟩⟩ := by
  rcases m with ⟨mode, _, n, _ | ⟨d, rest⟩⟩
  · obtain ⟨c, hc, -⟩ := h.step_eq
    exact nomatch hc
  cases h with
  | blank h hc => exact ⟨d, ⟨rfl, rfl⟩, fun r => .blank h hc⟩
  | opens h => exact ⟨d, ⟨rfl, rfl⟩, fun r => .opens h⟩
  | times h => exact ⟨d, ⟨rfl, rfl⟩, fun r => .times h⟩
  | plus h => exact ⟨d, ⟨rfl, rfl⟩, fun r => .plus h⟩

/-- **Splicing before an operand**: there the text that is left can be any other text, also one
that begins with a literal. -/
theorem Steps.splice_operand {m : Machine} {frame : Frame} {stack : List Frame} {p : Place}
    (h : Steps m ⟨.operand frame, stack, p⟩) :
    ∃ u, m.place.Passes u p ∧
      ∀ r, Steps (m.withRest (u ++ r)) ⟨.operand frame, stack, ⟨p.position, r⟩⟩ := by
  rcases ReflTransGen.cases_tail h with heq | ⟨m', hsteps, hmove⟩
  · subst heq
    exact ⟨[], ⟨rfl, rfl⟩, fun r => .refl⟩
  · obtain ⟨c, hc, hmoves⟩ := hmove.splice_operand
    obtain ⟨u, hu, hsteps⟩ := Steps.splice hsteps
    refine ⟨u ++ [c], hu.append hc, fun r => ?_⟩
    have hseam : Seam m'.place.rest (c :: r) := by
      rw [hc.1]
      exact .cons c p.rest r
    rw [List.append_assoc]
    exact (hsteps (c :: r) hseam).tail (hmoves r)

/-! ### Halting -/

/-- The machine finds a fault where it is. -/
theorem Halts.position_eq {m : Machine} {fault : Fault} (h : Halts m (.error fault)) :
    fault.position = m.place.position := by
  cases h <;> rfl

/-- A fault that names a character is found at it, whatever comes after it. -/
theorem Halts.splice_character {m : Machine} {fault : Fault} (h : Halts m (.error fault)) {c : Char}
    (hc : fault.character? = some c) :
    isBlank c = false ∧ (∃ x, m.place.rest = c :: x) ∧
      ∀ x, Halts (m.withRest (c :: x)) (.error fault) := by
  cases h with
  | unexpectedEnd _ | badLiteral _ _ _ | unclosed _ => exact nomatch hc
  | noNumber h hb hp hl =>
    obtain rfl := Option.some.inj hc
    exact ⟨hb, ⟨_, Place.rest_eq_cons h⟩, fun x => .noNumber rfl hb hp hl⟩
  | unexpected h hb h₁ h₂ h₃ =>
    obtain rfl := Option.some.inj hc
    exact ⟨hb, ⟨_, Place.rest_eq_cons h⟩, fun x => .unexpected rfl hb h₁ h₂ h₃⟩

/-- A literal is bad whatever comes after it. -/
theorem Halts.splice_literal {m : Machine} {literal : String} {n : Nat} {defect : Defect}
    (h : Halts m (.error (.badLiteral literal n defect))) :
    (∃ x, m.place.rest = literal.toList ++ x) ∧
      (∃ c, literal.toList.head? = some c ∧ isLiteralChar c = true) ∧
      ∀ x, NoneFirst isLiteralChar x →
        Halts (m.withRest (literal.toList ++ x)) (.error (.badLiteral literal n defect)) := by
  cases h with
  | @badLiteral frame stack p c _ h hl hv =>
    rw [String.toList_ofList]
    refine ⟨⟨_, List.takeWhile_append_dropWhile.symm⟩, ⟨c, ?_, hl⟩, fun x hx => ?_⟩
    · simpa [Place.peek?] using p.peek?_append_literal h hl []
    · have hhalt := @Halts.badLiteral frame stack _ _ _ (Place.peek?_append_literal h hl x) hl
        ((Place.literal_append_literal hx).symm ▸ hv)
      rwa [Place.literal_append_literal hx] at hhalt

/-- A fault without a character or a literal is found at the end of the text. -/
theorem Halts.rest_eq_nil {m : Machine} {fault : Fault} (h : Halts m (.error fault))
    (hs : fault.IsSyntax) (hc : fault.character? = none) : m.place.rest = [] := by
  cases h with
  | unexpectedEnd h | unclosed h => exact Place.rest_eq_nil h
  | noNumber _ _ _ _ | unexpected _ _ _ _ _ => exact nomatch hc
  | badLiteral _ _ _ => exact hs.elim

/-! ### Completions -/

/-- What closes all parentheses that are open. -/
def closing (stack : List Frame) : List Char := List.replicate stack.length ')'

theorem noneFirst_replicate_close (n : Nat) : NoneFirst isLiteralChar (List.replicate n ')') := by
  intro c hc
  rw [List.eq_of_mem_replicate (List.mem_of_head? hc)]
  decide

theorem noneFirst_closing (stack : List Frame) : NoneFirst isLiteralChar (closing stack) :=
  noneFirst_replicate_close _

/-- After an operand it is enough to close the parentheses. -/
theorem exists_answer_closing (sum : Option Binary64) (product : Binary64) (stack : List Frame)
    (n : Nat) : ∃ v, answer ⟨.operator sum product, stack, ⟨n, closing stack⟩⟩ = .ok v := by
  induction stack generalizing sum product n with
  | nil => exact ⟨_, (Halts.value rfl).answer_eq⟩
  | cons frame stack ih =>
    obtain ⟨v, hv⟩ := ih frame.sum (frame.times (total sum product)) (n + 1)
    exact ⟨v, (Steps.answer_eq (.single (.closes rfl))).trans hv⟩

/-- Every configuration has a text that leads to a value, and no literal goes on in it. -/
theorem exists_completion (m : Machine) :
    ∃ r, NoneFirst isLiteralChar r ∧ ∃ v, (m.withRest r).answer = .ok v := by
  rcases m with ⟨frame | ⟨sum, product⟩, stack, n, rest⟩
  · -- the blank keeps the operand apart from a literal before it
    refine ⟨' ' :: '1' :: closing stack, .cons (by decide), ?_⟩
    have hlit : Place.literal ⟨n + 1, '1' :: closing stack⟩ = ['1'] :=
      Place.literal_eq rfl (by decide) (noneFirst_closing stack)
    have hskip : Place.skipLiteral ⟨n + 1, '1' :: closing stack⟩ = ⟨n + 2, closing stack⟩ :=
      Place.skipLiteral_append_literal (p := ⟨n + 1, ['1']⟩) (noneFirst_closing stack)
    obtain ⟨one, hone⟩ : ∃ one, Literal.value ['1'] = .ok one := ⟨_, rfl⟩
    have hliteral : Moves ⟨.operand frame, stack, ⟨n + 1, '1' :: closing stack⟩⟩ _ :=
      .literal rfl (by decide) (hlit.symm ▸ hone)
    rw [hskip] at hliteral
    obtain ⟨v, hv⟩ := exists_answer_closing frame.sum (frame.times one) stack (n + 2)
    exact ⟨v, (Steps.answer_eq (.head (.blank rfl (by decide)) (.single hliteral))).trans hv⟩
  · exact ⟨closing stack, noneFirst_closing stack, exists_answer_closing sum product stack n⟩

/-!
### In a larger text

A machine never looks at the text before its place, and at no frame that it has not put on the
stack, unless it takes it off. So whatever it does, it does in the same way with more text before
its place and with more frames under its stack (`Steps.embed`): what has been read in
parentheses is what would have been read alone. With the frames as they are, a text in front moves
the fault that the machine answers, and leaves a value as it is (`answer_moveBy`).
-/

/-- The machine with more frames under its stack, and `n` more characters before it. -/
def embed (below : List Frame) (n : Nat) (m : Machine) : Machine :=
  ⟨m.mode, m.stack ++ below, m.place.moveBy n⟩

theorem Moves.embed {m m' : Machine} (h : Moves m m') (below : List Frame) (n : Nat) :
    Moves (m.embed below n) (m'.embed below n) := by
  cases h with
  | blank h hc => simpa [Machine.embed] using Moves.blank (p := Place.moveBy n _) h hc
  | opens h => simpa [Machine.embed] using Moves.opens (p := Place.moveBy n _) h
  | times h => simpa [Machine.embed] using Moves.times (p := Place.moveBy n _) h
  | plus h => simpa [Machine.embed] using Moves.plus (p := Place.moveBy n _) h
  | closes h => simpa [Machine.embed] using Moves.closes (p := Place.moveBy n _) h
  | literal h hl hv => simpa [Machine.embed] using Moves.literal (p := Place.moveBy n _) h hl hv

/-- **Embedding**: the machine goes the same way in a larger text. -/
theorem Steps.embed {m m' : Machine} (h : Steps m m') (below : List Frame) (n : Nat) :
    Steps (m.embed below n) (m'.embed below n) := by
  induction h with
  | refl => exact .refl
  | tail _ hmove ih => exact .tail ih (hmove.embed below n)

/-- With more text before it the machine halts with its fault further on. -/
theorem Halts.moveBy {mode : Mode} {stack : List Frame} {p : Place} {result : Except Fault Binary64}
    (h : Halts ⟨mode, stack, p⟩ result) (n : Nat) :
    Halts ⟨mode, stack, p.moveBy n⟩ (result.mapError (Fault.moveBy n)) := by
  cases h with
  | unexpectedEnd h => exact .unexpectedEnd h
  | noNumber h hb hp hl => exact .noNumber h hb hp hl
  | badLiteral h hl hv => exact .badLiteral h hl hv
  | value h => exact .value h
  | unclosed h => exact .unclosed h
  | unexpected h hb h₁ h₂ h₃ => exact .unexpected h hb h₁ h₂ h₃

/-- **A text in front** moves the fault that the machine answers. -/
theorem answer_moveBy (mode : Mode) (stack : List Frame) (n : Nat) (p : Place) :
    answer ⟨mode, stack, p.moveBy n⟩ =
      (answer ⟨mode, stack, p⟩).mapError (Fault.moveBy n) := by
  obtain ⟨m, hsteps, hhalt⟩ := answer_eq_iff.1 (rfl : answer ⟨mode, stack, p⟩ = _)
  have hembed := Steps.embed hsteps [] n
  simp only [Machine.embed, List.append_nil] at hembed
  exact answer_eq_iff.2 ⟨_, hembed, hhalt.moveBy n⟩

end SumProduct.StackMachine.Machine
