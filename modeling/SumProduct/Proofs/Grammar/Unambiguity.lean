import SumProduct.Proofs.Grammar.Recognition

/-!
# The grammar is unambiguous

A text has at most one derivation by a rule, and it is known where it ends: if two texts
begin with derivations by the same rule and the rule leaves off after both, the
derivations are the same and so is the rest (`Derivation.determined`).

Sums and products lean to the left, so that one derivation may go on where the other one
ends, with more operators (`Derivation.Extends`). Two derivations at the start of one text
are such that one extends the other (`Derivation.Compared`), and where the rule leaves off
there is nothing to extend with.
-/

namespace SumProduct

/-- What may come after an operand, with the blanks behind it. -/
def Operator.Bounds (op : Operator) (x : List Char) : Prop :=
  ∃ (g : Gap) (r : List Char), x = g.text ++ r ∧ ∀ f : Derivation op.operandRule, f.LeavesOff g r

theorem Operator.Ends.bounds {op : Operator} {r : List Char} (h : op.Ends r) (g : Gap) :
    op.Bounds (g.text ++ r) :=
  ⟨op.passed g, (op.left g).text ++ r, (op.passed_append_left g r).symm, h.leavesOff g⟩

namespace Derivation

/-- A derivation of a rule is determined by the text that begins with it. -/
def Determined {rule : Rule} (d : Derivation rule) : Prop :=
  ∀ (e : Derivation rule) (g h : Gap) (r s : List Char),
    d.text ++ (g.text ++ r) = e.text ++ (h.text ++ s) → d.LeavesOff g r → e.LeavesOff h s →
      d = e ∧ g = h ∧ r = s

theorem Determined.operand {op : Operator} {f f' : Derivation op.operandRule} {x y : List Char}
    (h : f.Determined) (e : f.text ++ x = f'.text ++ y) (hx : op.Bounds x) (hy : op.Bounds y) :
    f = f' ∧ x = y := by
  obtain ⟨g, r, rfl, hr⟩ := hx
  obtain ⟨g', r', rfl, hr'⟩ := hy
  obtain ⟨rfl, rfl, rfl⟩ := h f' g g' r r' e (hr f) (hr' f')
  exact ⟨rfl, rfl⟩

/-! ### Derivations that go on -/

/-- `Extends op d x e y`: the operands of `d`, with `x` after them, are the first of those
of `e`, with `y` after them. -/
inductive Extends (op : Operator) :
    Derivation op.rule → List Char → Derivation op.rule → List Char → Prop
  /-- The operands are the same. -/
  | refl {d x} : Extends op d x d x
  /-- One operand more. -/
  | chain {d b a right x e y} (h : Extends op (.chain op d b a right) x e y) :
    Extends op d (b.text ++ op.symbol :: (a.text ++ (right.text ++ x))) e y

variable {op : Operator} {d e : Derivation op.rule} {x y : List Char}

/-- One operand more at the end. -/
theorem Extends.snoc {b a : Gap} {right : Derivation op.operandRule}
    (h : Extends op d x e (b.text ++ op.symbol :: (a.text ++ (right.text ++ y)))) :
    Extends op d x (.chain op e b a right) y := by
  generalize hz : b.text ++ op.symbol :: (a.text ++ (right.text ++ y)) = z at h
  induction h with
  | refl => exact hz ▸ .chain .refl
  | chain _ ih => exact .chain (ih hz)

theorem Extends.bounds (h : Extends op d x e y) (hy : op.Bounds y) : op.Bounds x := by
  cases h with
  | refl => exact hy
  | chain _ => exact Operator.Ends.bounds (.inl rfl) _

/-- The first operand of a derivation. -/
theorem exists_extends_single (e : Derivation op.rule) (hy : op.Bounds y) :
    ∃ f x, e.text ++ y = f.text ++ x ∧ op.Bounds x ∧ Extends op (single op f) x e y := by
  induction e using operands_induction generalizing y with
  | first f => exact ⟨f, y, by rw [text_single], hy, .refl⟩
  | more left b a right ih =>
    have hends : op.Ends (op.symbol :: (a.text ++ (right.text ++ y))) := .inl rfl
    obtain ⟨f, x, htext, hx, h⟩ := ih (hends.bounds b)
    exact ⟨f, x, by rw [← htext, text_chain]; simp, hx, h.snoc⟩

/-- Where operands end, a derivation does not go on. -/
theorem Extends.eq_of_stops {g : Gap} {r : List Char} (hr : op.rule.Stops r.head?)
    (h : Extends op d (g.text ++ r) e y) : d = e ∧ g.text ++ r = y := by
  generalize hx : g.text ++ r = x at h
  cases h with
  | refl => exact ⟨rfl, rfl⟩
  | @chain _ b a right x _ _ _ =>
    have hends : op.Ends r := .inr hr
    obtain ⟨-, rfl⟩ := Gap.append_inj hends.noneFirst.1 (.cons op.symbol_class.1) hx
    cases op <;> simp [Operator.rule, Rule.Stops, Operator.symbol] at hr

/-! ### Two derivations at the start of one text -/

/-- Of two derivations at the start of one text one goes on from the other. -/
def Compared (op : Operator) (d : Derivation op.rule) : Prop :=
  ∀ (e : Derivation op.rule) (x y : List Char), d.text ++ x = e.text ++ y →
    op.Bounds x → op.Bounds y → Extends op d x e y ∨ Extends op e y d x

theorem Determined.single {f : Derivation op.operandRule} (h : f.Determined) :
    (single op f).Compared := by
  intro e x y hxy hx hy
  obtain ⟨f', x', htext, hx', hext⟩ := e.exists_extends_single hy
  rw [text_single, htext] at hxy
  obtain ⟨rfl, rfl⟩ := h.operand hxy hx hx'
  exact .inl hext

theorem Compared.chain {left : Derivation op.rule} {right : Derivation op.operandRule}
    (hl : left.Compared) (hr : right.Determined) (b a : Gap) :
    (chain op left b a right).Compared := by
  intro e x y hxy hx hy
  have hends (s : List Char) : op.Ends (op.symbol :: s) := .inl rfl
  have hxy : left.text ++ (b.text ++ op.symbol :: (a.text ++ (right.text ++ x))) = e.text ++ y := by
    rw [← hxy, text_chain]
    simp
  rcases hl e _ y hxy ((hends _).bounds b) hy with h | h
  · generalize hz : b.text ++ op.symbol :: (a.text ++ (right.text ++ x)) = z at h
    cases h with
    | refl => exact .inr (hz ▸ .chain .refl)
    | @chain _ b' a' right' x' _ _ h =>
      -- both go on with the same operator and the same operand
      obtain ⟨rfl, hsymbol⟩ :=
        Gap.append_inj (.cons op.symbol_class.1) (.cons op.symbol_class.1) hz
      obtain ⟨rfl, hright⟩ :=
        Gap.append_inj (noneFirst_isBlank _ _) (noneFirst_isBlank _ _) (List.cons.inj hsymbol).2
      obtain ⟨rfl, rfl⟩ := hr.operand hright hx (h.bounds hy)
      exact .inl h
  · exact .inr h.snoc

theorem Compared.determined (h : d.Compared) : d.Determined := by
  intro e g g' r r' htext hd he
  have hr : op.rule.Stops r.head? := by cases op <;> exact hd
  have hr' : op.rule.Stops r'.head? := by cases op <;> exact he
  have hends : op.Ends r := .inr hr
  have hends' : op.Ends r' := .inr hr'
  have key : d = e ∧ g.text ++ r = g'.text ++ r' := by
    rcases h e _ _ htext (hends.bounds g) (hends'.bounds g') with h | h
    · exact h.eq_of_stops hr
    · exact (h.eq_of_stops hr').imp Eq.symm Eq.symm
  obtain ⟨rfl, hrest⟩ := key
  exact ⟨rfl, Gap.append_inj hends.noneFirst.1 hends'.noneFirst.1 hrest⟩

/-! ### Every derivation is determined -/

/-- A literal does not begin with a parenthesis. -/
theorem literal_append_ne {s x y : List Char} (valid : Literal.IsValid s) : s ++ x ≠ '(' :: y := by
  obtain ⟨c, s, rfl, hc⟩ := valid.exists_eq_cons
  intro h
  rw [(List.cons.inj h).1, isLiteralChar_openParen] at hc
  exact nomatch hc

theorem determined_literal {s : List Char} (valid : Literal.IsValid s) :
    (literal s valid).Determined := by
  rintro e g h r r' htext ⟨rfl, hr⟩ ⟨rfl, hr'⟩
  cases e with
  | literal s' valid' =>
    obtain ⟨rfl, rfl⟩ := (hr trivial).append_inj (hr' trivial) valid.1 valid'.1 htext
    exact ⟨rfl, rfl, rfl⟩
  | parenthesised _ _ _ => exact absurd htext (literal_append_ne valid)

theorem Determined.parenthesised {inner : Derivation .expression} (h : inner.Determined)
    (b a : Gap) : (parenthesised b inner a).Determined := by
  rintro e g g' r r' htext ⟨rfl, -⟩ ⟨rfl, -⟩
  cases e with
  | literal _ valid => exact absurd htext.symm (literal_append_ne valid)
  | parenthesised b' inner' a' =>
    simp only [text, List.cons_append, List.append_assoc, List.cons.injEq, true_and] at htext
    obtain ⟨rfl, hinner⟩ :=
      Gap.append_inj (noneFirst_isBlank _ _) (noneFirst_isBlank _ _) htext
    obtain ⟨rfl, rfl, hrest⟩ := h inner' a a' _ _ hinner (.inr rfl) (.inr rfl)
    exact ⟨rfl, rfl, (List.cons.inj hrest).2⟩

/-- **Unambiguity**: every derivation is determined by a text that begins with it. -/
theorem determined {rule : Rule} (d : Derivation rule) : d.Determined := by
  have key : match rule, d with
      | .factor, d => d.Determined
      | .term, d => Compared .times d
      | .expression, d => Compared .plus d := by
    induction d with
    | literal s valid => exact determined_literal valid
    | parenthesised b inner a ih => exact ih.determined.parenthesised b a
    | factor f ih => exact ih.single
    | times left b a right ihl ihr => exact ihl.chain ihr b a
    | term t ih => exact ih.determined.single
    | plus left b a right ihl ihr => exact ihl.chain ihr.determined b a
  cases rule with
  | factor => exact key
  | term => exact key.determined
  | expression => exact key.determined

end Derivation

/-- A text is the text of one sentence at most. -/
theorem Sentence.eq_of_text_eq {s t : Sentence} (h : s.text = t.text) : s = t := by
  rcases s with ⟨before, d, after⟩
  rcases t with ⟨before', d', after'⟩
  simp only [Sentence.text, List.append_assoc] at h
  obtain ⟨rfl, hd⟩ := Gap.append_inj (d.noneFirst_isBlank _) (d'.noneFirst_isBlank _) h
  obtain ⟨rfl, rfl, -⟩ := d.determined d' after after' [] [] (by simpa using hd) (.inl rfl) (.inl rfl)
  rfl

end SumProduct
