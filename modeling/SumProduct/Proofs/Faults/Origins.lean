import SumProduct.Proofs.Course
import SumProduct.Proofs.Evaluation

/-!
# Where faults come from

There are five ways for a descent to fail, and `Arises` has one constructor for each: what is looked
at, and which fault that is. A task that comes to a fault has it from before, or the fault has
arisen on the way and reading has stopped there (`Yields.arises`). So what is true of all faults of
a descent is shown by going through these five.

A parenthesis that is not closed arises at the end of the text only: between parentheses an
expression does not stop at anything else but a closing one. For the same reason it is a closing
parenthesis if something is left over behind an expression (`Rule.ended_run_of_ok`).
-/

namespace SumProduct

/-- The fault arises at the first place, and leaves the reading at the second. -/
inductive Arises : Fault → Place → Place → Prop
  /-- The text ends before an operand. -/
  | ended {q} (h : q.peek? = none) : Arises (.unexpectedEnd q.position) q q
  /-- A character starts no operand. -/
  | noNumber {q c} (h : q.peek? = some c) (hb : isBlank c = false) (hp : c ≠ '(')
    (hl : isLiteralChar c = false) : Arises (.expectedNumber (some c) q.position) q q
  /-- A literal denotes no number. -/
  | badLiteral {s c defect} (h : s.peek? = some c) (hl : isLiteralChar c = true)
    (hv : Literal.value s.literal = .error defect) :
    Arises (.badLiteral (String.ofList s.literal) s.position defect) s s.skipLiteral
  /-- The text ends before a parenthesis is closed. -/
  | unclosed {q} (h : q.peek? = none) : Arises (.expectedClosing none q.position) q q
  /-- A character may not follow an operand. -/
  | unexpected {q c} (h : q.peek? = some c) (hb : isBlank c = false) (h₁ : c ≠ '+') (h₂ : c ≠ '*')
    (h₃ : c ≠ ')') : Arises (.unexpectedCharacter c q.position) q q

/-- A literal that is read as a fault is one that denotes no number. -/
theorem Arises.of_literalResult {p : Place} {c : Char} {fault : Fault} (h : p.peek? = some c)
    (hl : isLiteralChar c = true) (hf : p.literalResult = .error fault) :
    Arises fault p p.skipLiteral := by
  rw [Place.literalResult] at hf
  cases hv : Literal.value p.literal with
  | ok value =>
    rw [hv] at hf
    exact nomatch hf
  | error defect =>
    rw [hv] at hf
    obtain rfl := Except.error.inj hf
    exact .badLiteral h hl hv

/-- A character that goes on with neither operator is no symbol of one. -/
theorem Operator.ne_symbols {op : Operator} {c : Char} (h : c ≠ op.symbol)
    (h' : c ≠ op.other.symbol) : c ≠ '+' ∧ c ≠ '*' := by
  cases op with
  | plus => exact ⟨h, h'⟩
  | times => exact ⟨h', h⟩

/-- The task has the fault from before. -/
def Task.Carries (fault : Fault) : Task → Prop
  | .more _ (.error earlier) _ => earlier = fault
  | _ => False

theorem Operator.not_carries_operand (op : Operator) (p : Place) (fault : Fault) :
    ¬ (op.operand p).Carries fault := by
  cases op <;> exact id

theorem Rule.not_carries_task (rule : Rule) (p : Place) (fault : Fault) :
    ¬ (rule.task p).Carries fault := by
  cases rule <;> exact id

/-- A fault of a task is one from before, or it has arisen on the way and has stopped the reading.
-/
theorem Yields.arises {t : Task} {result : Except Fault Binary64} {q : Place} {es : List Event}
    (h : Yields t result q es) {fault : Fault} (hf : result = .error fault) :
    t.Carries fault ∨ ∃ s, t.place.LeadsTo s ∧ Arises fault s q := by
  induction h generalizing fault with
  | ended h =>
    obtain rfl := Except.error.inj hf
    exact .inr ⟨_, .skipBlanks _, .ended h⟩
  | noNumber h hp hl =>
    obtain rfl := Except.error.inj hf
    exact .inr ⟨_, .skipBlanks _, .noNumber h (Place.peek?_skipBlanks h) hp hl⟩
  | literal h hl => exact .inr ⟨_, .skipBlanks _, .of_literalResult h hl hf⟩
  | innerFault _ _ ih =>
    obtain ⟨s, hs, harises⟩ := (ih hf).resolve_left id
    exact .inr ⟨s, (Place.LeadsTo.skipBlanks _).trans ((Place.LeadsTo.advance _).trans hs), harises⟩
  | closed _ _ _ _ | stop _ => exact nomatch hf
  | unclosed _ inner hq _ =>
    -- an expression stops before a closing parenthesis or at the end
    obtain rfl := Except.error.inj hf
    have hend := (Rule.expression.stops_of_yields inner).resolve_right hq
    have hleads := (Place.LeadsTo.skipBlanks _).trans ((Place.LeadsTo.advance _).trans inner.leadsTo)
    rw [hend]
    exact .inr ⟨_, hleads, .unclosed hend⟩
  | @operands op p first q es result r fs operand _ ih₁ ih₂ =>
    cases first with
    | error earlier =>
      -- nothing comes after a fault, so that it is the one of the first operand
      cases ‹Yields (.more _ _ _) result r fs›
      obtain ⟨s, hs, harises⟩ := (ih₁ hf).resolve_left (op.not_carries_operand p fault)
      exact .inr ⟨s, op.place_operand p ▸ hs, harises⟩
    | ok value =>
      obtain ⟨s, hs, harises⟩ := (ih₂ hf).resolve_left id
      exact .inr ⟨s, (op.place_operand p ▸ operand.leadsTo).trans hs, harises⟩
  | fault => exact .inl (Except.error.inj hf)
  | @next op value p operand q es result r fs _ right _ ih₁ ih₂ =>
    have hp := (Place.LeadsTo.skipBlanks p).trans (.advance _)
    cases operand with
    | error earlier =>
      cases ‹Yields (.more _ _ _) result r fs›
      obtain ⟨s, hs, harises⟩ := (ih₁ hf).resolve_left (op.not_carries_operand _ fault)
      exact .inr ⟨s, hp.trans (op.place_operand p.skipBlanks.advance ▸ hs), harises⟩
    | ok w =>
      obtain ⟨s, hs, harises⟩ := (ih₂ hf).resolve_left id
      have hright := op.place_operand p.skipBlanks.advance ▸ right.leadsTo
      exact .inr ⟨s, hp.trans (hright.trans hs), harises⟩
  | unexpected h h₁ h₂ h₃ =>
    obtain rfl := Except.error.inj hf
    obtain ⟨hplus, htimes⟩ := Operator.ne_symbols h₁ h₂
    exact .inr ⟨_, .skipBlanks _, .unexpected h (Place.peek?_skipBlanks h) hplus htimes h₃⟩

/-- **The fault of a rule** has arisen where reading has stopped. -/
theorem Rule.arises_run {rule : Rule} {p : Place} {fault : Fault}
    (h : (rule.run p).result = .error fault) :
    ∃ s, p.LeadsTo s ∧ Arises fault s (rule.run p).place := by
  have harises := ((rule.yields_run p).arises h).resolve_left (rule.not_carries_task p fault)
  rwa [rule.place_task] at harises

/-- An expression that comes to a value makes up the text to its end, or a closing parenthesis is
left over. -/
theorem Rule.ended_run_of_ok {p : Place} {value : Binary64}
    (h : (expression.run p).result = .ok value) :
    (expression.run p).ended.result = .ok value ∨
      (expression.run p).ended.result =
        .error (.unexpectedCharacter ')' (expression.run p).place.position) := by
  rcases Outcome.ended_eq_ok_or h with hok | ⟨c, hc, hfault⟩
  · exact .inl hok
  · have hstops := expression.stops_of_yields (h ▸ expression.yields_run p)
    rw [hc] at hstops
    obtain rfl : c = ')' := Option.some.inj (hstops.resolve_left nofun)
    exact .inr hfault

end SumProduct
