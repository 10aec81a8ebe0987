import SumProduct.Proofs.Grammar.Texts

/-!
# The rules recognise the grammar

A rule comes to a value exactly where its place is followed by a text that the grammar
derives for the rule, with that value, and by something the rule leaves off at. Rules
differ in the blanks they pass: all pass the blanks in front, a term and an expression
also those behind (`Derivation.LeavesOff`).

* `Yields.spans` — what a rule has read is derived by the grammar.
* `Derivation.recognised` — what the grammar derives is read.
* `yields_iff_spans` — both together, which is what the rules promise at any place.
-/

namespace SumProduct

/-- The rule that reads the derivation leaves off after these blanks and before this text. -/
def Derivation.LeavesOff : {rule : Rule} → Derivation rule → Gap → List Char → Prop
  | .factor, d, after, r => after = .empty ∧ (d.IsLiteral → NoneFirst isLiteralChar r)
  | .term, _, _, r => Rule.term.Stops r.head?
  | .expression, _, _, r => Rule.expression.Stops r.head?

/-- Between two places there is a derivation with a value, and blanks. -/
def Spans (rule : Rule) (value : Binary64) (p q : Place) : Prop :=
  ∃ (before : Gap) (d : Derivation rule) (after : Gap),
    p.rest = before.text ++ (d.text ++ (after.text ++ q.rest)) ∧ d.value = value ∧
      d.LeavesOff after q.rest

/-! ### What is read is derived -/

/-- What the text of a task has in it, if the task comes to a value. -/
def Task.Spells (value : Binary64) (q : Place) : Task → Prop
  | .factor p => Spans .factor value p q
  | .operands op p => ∃ (before : Gap) (d : Derivation op.rule) (after : Gap),
      p.rest = before.text ++ (d.text ++ (after.text ++ q.rest)) ∧ d.value = value
  | .more op first p => ∀ (left : Derivation op.rule) (b : Gap), first = .ok left.value →
      ∃ (d : Derivation op.rule) (after : Gap),
        left.text ++ (b.text ++ p.rest) = d.text ++ (after.text ++ q.rest) ∧ d.value = value

theorem Task.Spells.operand {op : Operator} {value : Binary64} {p q : Place}
    (h : (op.operand p).Spells value q) :
    ∃ (before : Gap) (d : Derivation op.operandRule) (after : Gap),
      p.rest = before.text ++ (d.text ++ (after.text ++ q.rest)) ∧ d.value = value := by
  cases op with
  | plus => exact h
  | times =>
    obtain ⟨before, d, after, htext, hvalue, -⟩ := h
    exact ⟨before, d, after, htext, hvalue⟩

theorem Yields.spells {t : Task} {result : Except Fault Binary64} {q : Place} {es : List Event}
    (h : Yields t result q es) {value : Binary64} (hv : result = .ok value) :
    t.Spells value q := by
  induction h generalizing value with
  | ended _ | noNumber _ _ _ | innerFault _ _ _ | unclosed _ _ _ _ => cases hv
  | fault | unexpected _ _ _ _ => cases hv
  | @literal p c h hl =>
    have hvalue : Literal.value p.skipBlanks.literal = .ok value := by
      rw [Place.literalResult] at hv
      cases hl : Literal.value p.skipBlanks.literal with
      | error d =>
        rw [hl] at hv
        cases hv
      | ok v =>
        rw [hl] at hv
        exact congrArg _ (Except.ok.inj hv)
    obtain ⟨valid, rfl⟩ := Literal.value_eq_ok_iff.1 hvalue
    refine ⟨.ofPlace p, .literal _ valid, .empty, ?_, rfl, rfl, fun _ => .dropWhile⟩
    rw [p.rest_eq]
    exact congrArg _ List.takeWhile_append_dropWhile.symm
  | @closed p v q es h _ hq ih =>
    obtain ⟨before, d, after, htext, rfl⟩ := ih rfl
    obtain rfl := Except.ok.inj hv
    refine ⟨.ofPlace p, .parenthesised before d after, .empty, ?_, rfl, rfl, False.elim⟩
    rw [p.rest_eq, Place.rest_eq_cons h, htext, Place.rest_eq_cons hq]
    simp only [Derivation.text, Gap.empty, List.append_assoc, List.cons_append, List.nil_append]
    rfl
  | @operands op p first q es result r fs operand more ih₁ ih₂ =>
    cases first with
    | error _ =>
      cases more
      cases hv
    | ok first =>
      obtain ⟨before, d, after, htext, rfl⟩ := (ih₁ rfl).operand
      obtain ⟨d', after', htext', hvalue⟩ := ih₂ hv (.single op d) after (by simp)
      refine ⟨before, d', after', ?_, hvalue⟩
      rw [htext, ← htext', Derivation.text_single]
  | @stop op v p h =>
    intro left b hleft
    obtain rfl := Except.ok.inj hleft
    refine ⟨left, b.append (.ofPlace p), ?_, Except.ok.inj hv⟩
    rw [p.rest_eq]
    simp [Gap.append]
  | @next op v p operand q es result r fs h right more ih₁ ih₂ =>
    intro left b hleft
    obtain rfl := Except.ok.inj hleft
    cases operand with
    | error _ =>
      cases more
      cases hv
    | ok w =>
      obtain ⟨before, d, after, htext, rfl⟩ := (ih₁ rfl).operand
      obtain ⟨d', after', htext', hvalue⟩ :=
        ih₂ hv (.chain op left (b.append (.ofPlace p)) before d) after (by simp [Except.map])
      refine ⟨d', after', ?_, hvalue⟩
      rw [← htext', p.rest_eq, Place.rest_eq_cons h, htext]
      simp [Gap.append]

/-- **What is read is derived**: a rule that comes to a value has passed a derivation of
that value. -/
theorem Yields.spans {rule : Rule} {p q : Place} {value : Binary64} {es : List Event}
    (h : Yields (rule.task p) (.ok value) q es) : Spans rule value p q := by
  have hstops := rule.stops_of_yields h
  have hspells := h.spells rfl
  cases rule with
  | factor => exact hspells
  | term | expression =>
    obtain ⟨before, d, after, htext, hvalue⟩ := hspells
    exact ⟨before, d, after, htext, hvalue, hstops⟩

/-! ### What is derived is read -/

/-- The rule reads the derivation wherever it leaves off after it. -/
def Derivation.Recognised {rule : Rule} (d : Derivation rule) : Prop :=
  ∀ (p : Place) (before after : Gap) (r : List Char),
    p.rest = before.text ++ (d.text ++ (after.text ++ r)) → d.LeavesOff after r →
      ∃ q es, q.rest = r ∧ Yields (rule.task p) (.ok d.value) q es

/-- Reading operands comes to where the derivation ends, if operands leave off there, and
goes on from its value. -/
def Derivation.Continued (op : Operator) (d : Derivation op.rule) : Prop :=
  ∀ (p : Place) (before after : Gap) (r : List Char),
    p.rest = before.text ++ (d.text ++ (after.text ++ r)) →
    (∀ f : Derivation op.operandRule, f.LeavesOff after r) →
      ∃ q, q.rest = r ∧ ∀ result s fs, Yields (.more op (.ok d.value) q) result s fs →
        ∃ es, Yields (.operands op p) result s es

/-- What may come after an operand and the blanks behind it. -/
def Operator.Ends (op : Operator) (r : List Char) : Prop :=
  r.head? = some op.symbol ∨ op.rule.Stops r.head?

theorem Operator.Ends.noneFirst {op : Operator} {r : List Char} (h : op.Ends r) :
    NoneFirst isBlank r ∧ NoneFirst isLiteralChar r := by
  have key : ∀ c, r.head? = some c → c = '*' ∨ c = '+' ∨ c = ')' := by
    intro c hc
    rw [Ends, hc] at h
    cases op with
    | plus => rcases h with h | h | h <;> simp_all [Operator.symbol]
    | times => rcases h with h | h | h | h <;> simp_all [Operator.symbol]
  constructor <;> intro c hc <;> rcases key c hc with rfl | rfl | rfl <;> decide

/-- The blanks behind an operand that reading the operand passes. -/
def Operator.passed : Operator → Gap → Gap
  | .plus, g => g
  | .times, _ => .empty

/-- The blanks behind an operand that are left. -/
def Operator.left : Operator → Gap → Gap
  | .plus, _ => .empty
  | .times, g => g

theorem Operator.passed_append_left (op : Operator) (g : Gap) (r : List Char) :
    (op.passed g).text ++ ((op.left g).text ++ r) = g.text ++ r := by
  cases op <;> simp [passed, left, Gap.empty]

/-- Where operands end, each of them leaves off. -/
theorem Operator.Ends.leavesOff {op : Operator} {r : List Char} (h : op.Ends r) (g : Gap)
    (f : Derivation op.operandRule) : f.LeavesOff (op.passed g) ((op.left g).text ++ r) := by
  cases op with
  | times => exact ⟨rfl, fun _ => h.noneFirst.2.gap_append⟩
  | plus =>
    rcases h with h | h | h
    · exact .inr (.inl h)
    · exact .inl h
    · exact .inr (.inr h)

theorem Derivation.Recognised.operand {op : Operator} {f : Derivation op.operandRule}
    (h : f.Recognised) {p : Place} {before after : Gap} {r : List Char}
    (hp : p.rest = before.text ++ (f.text ++ (after.text ++ r))) (hf : f.LeavesOff after r) :
    ∃ q es, q.rest = r ∧ Yields (op.operand p) (.ok f.value) q es :=
  op.task_operandRule ▸ h p before after r hp hf

theorem Derivation.recognised_literal {s : List Char} (valid : Literal.IsValid s) :
    (literal s valid).Recognised := by
  rintro p before after r hp ⟨rfl, hoff⟩
  have hp : p.rest = before.text ++ (s ++ r) := hp
  have hr : NoneFirst isLiteralChar r := hoff trivial
  have hskip : p.skipBlanks.rest = s ++ r :=
    Place.rest_skipBlanks hp before.blank ((literal s valid).noneFirst_isBlank r)
  have hlit : p.skipBlanks.literal = s := Place.literal_eq hskip valid.1 hr
  obtain ⟨c, rest, rfl, hc⟩ := valid.exists_eq_cons
  have hread := Yields.literal (Place.peek?_of_rest_eq hskip) hc
  rw [Place.literalResult, hlit, Literal.value_eq_ok_iff.2 ⟨valid, rfl⟩] at hread
  exact ⟨_, _, Place.rest_skipLiteral hskip valid.1 hr, hread⟩

theorem Derivation.Recognised.parenthesised {inner : Derivation .expression}
    (h : inner.Recognised) (b a : Gap) : (parenthesised b inner a).Recognised := by
  rintro p before after r hp ⟨rfl, -⟩
  have hp : p.rest = before.text ++ '(' :: (b.text ++ (inner.text ++ (a.text ++ ')' :: r))) := by
    rw [hp]
    simp [text, Gap.empty]
  have hskip := Place.rest_skipBlanks hp before.blank (.cons isBlank_marks.2.2.1)
  obtain ⟨q, es, hq, inner⟩ :=
    h p.skipBlanks.advance b a (')' :: r) (Place.rest_advance hskip) (.inr rfl)
  have hopen := Place.peek?_of_rest_eq hskip
  have hclose := Place.peek?_of_rest_eq hq
  exact ⟨_, _, Place.rest_advance hq, .closed hopen inner hclose⟩

theorem Derivation.Recognised.single {op : Operator} {f : Derivation op.operandRule}
    (h : f.Recognised) : (single op f).Continued := by
  intro p before after r hp hr
  rw [text_single] at hp
  obtain ⟨q, es, hq, first⟩ := h.operand hp (hr f)
  refine ⟨q, hq, fun result s fs more => ?_⟩
  rw [value_single] at more
  exact ⟨_, .operands first more⟩

theorem Derivation.Continued.chain {op : Operator} {left : Derivation op.rule}
    {right : Derivation op.operandRule} (hl : left.Continued) (hr : right.Recognised)
    (b a : Gap) : (chain op left b a right).Continued := by
  intro p before after r hp hoff
  have hends : op.Ends (op.symbol :: (a.text ++ (right.text ++ (after.text ++ r)))) := .inl rfl
  obtain ⟨q, hq, hmore⟩ := hl p before (op.passed b) _ (by
    rw [hp, Operator.passed_append_left]; simp) (hends.leavesOff b)
  have hskip := Place.rest_skipBlanks hq (op.left b).blank hends.noneFirst.1
  obtain ⟨s, es, hs, operand⟩ := hr.operand (Place.rest_advance hskip) (hoff right)
  refine ⟨s, hs, fun result t fs more => ?_⟩
  rw [value_chain] at more
  exact hmore _ _ _ (.next (Place.peek?_of_rest_eq hskip) operand more)

/-- Where operands end, reading them stops. -/
theorem Derivation.Continued.recognised {op : Operator} {d : Derivation op.rule}
    (h : d.Continued) : d.Recognised := by
  intro p before after r hp hoff
  have hstops : op.rule.Stops r.head? := by cases op <;> exact hoff
  have hends : op.Ends r := .inr hstops
  obtain ⟨q, hq, hmore⟩ := h p before (op.passed after) ((op.left after).text ++ r)
    (by rw [hp, Operator.passed_append_left]) (hends.leavesOff after)
  have hskip := Place.rest_skipBlanks hq (op.left after).blank hends.noneFirst.1
  obtain ⟨es, more⟩ := hmore _ _ _ (.stop fun c hc => by
    rw [Place.peek?_eq_head?, hskip] at hc
    rw [hc] at hstops
    cases op with
    | plus => exact .inr (Option.some.inj (hstops.resolve_left nofun))
    | times => exact (hstops.resolve_left nofun).imp Option.some.inj Option.some.inj)
  exact ⟨_, es, hskip, op.task_rule ▸ more⟩

/-- **What is derived is read**: every derivation is recognised. -/
theorem Derivation.recognised {rule : Rule} (d : Derivation rule) : d.Recognised := by
  -- sums and products lean to the left, so that they are known as far as they go on
  have key : match rule, d with
      | .factor, d => d.Recognised
      | .term, d => Continued .times d
      | .expression, d => Continued .plus d := by
    induction d with
    | literal s valid => exact recognised_literal valid
    | parenthesised b inner a ih => exact ih.recognised.parenthesised b a
    | factor f ih => exact ih.single
    | times left b a right ihl ihr => exact ihl.chain ihr b a
    | term t ih => exact ih.recognised.single
    | plus left b a right ihl ihr => exact ihl.chain ihr.recognised b a
  cases rule with
  | factor => exact key
  | term => exact key.recognised
  | expression => exact key.recognised

/-- **The contract of the rules**: a rule comes to a value at a place exactly if a
derivation of that value, with blanks, lies before the place and the rule leaves off there. -/
theorem yields_iff_spans {rule : Rule} {p q : Place} {value : Binary64} :
    (∃ es, Yields (rule.task p) (.ok value) q es) ↔ p.LeadsTo q ∧ Spans rule value p q := by
  constructor
  · rintro ⟨es, h⟩
    exact ⟨rule.place_task p ▸ h.leadsTo, h.spans⟩
  · rintro ⟨hpq, before, d, after, hp, rfl, hoff⟩
    obtain ⟨q', es, hq', h⟩ := d.recognised p before after q.rest hp hoff
    obtain rfl := (rule.place_task p ▸ h.leadsTo).eq hpq hq'
    exact ⟨es, h⟩

end SumProduct
