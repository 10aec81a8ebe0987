import SumProduct.Grammar.Derivation
import SumProduct.Proofs.Course

/-!
# The texts of derivations

What can be said of the text of a derivation without reading it. Sums of terms and
products of factors are one thing here, operands with operators of one kind between them:
`Derivation.single` is a first operand and `Derivation.chain` one operand more.
-/

namespace SumProduct

/-! ### Gaps -/

namespace Gap

/-- No blanks. -/
def empty : Gap := ⟨[], rfl⟩

/-- The blanks of two gaps. -/
def append (g h : Gap) : Gap := ⟨g.text ++ h.text, by rw [List.all_append, g.blank, h.blank]; rfl⟩

/-- The blanks at a place. -/
def ofPlace (p : Place) : Gap := ⟨p.rest.takeWhile isBlank, List.all_takeWhile⟩

theorem ext {g h : Gap} (e : g.text = h.text) : g = h := by
  rcases g with ⟨g, hg⟩
  rcases h with ⟨h, hh⟩
  obtain rfl : g = h := e
  rfl

/-- A text starts with a gap in one way, if no blank comes after it. -/
theorem append_inj {g h : Gap} {x y : List Char} (hx : NoneFirst isBlank x)
    (hy : NoneFirst isBlank y) (e : g.text ++ x = h.text ++ y) : g = h ∧ x = y := by
  obtain ⟨hg, hxy⟩ := hx.append_inj hy g.blank h.blank e
  exact ⟨ext hg, hxy⟩

end Gap

theorem Place.rest_eq (p : Place) : p.rest = (Gap.ofPlace p).text ++ p.skipBlanks.rest :=
  List.takeWhile_append_dropWhile.symm

/-! ### Literals that denote a number -/

theorem Literal.IsValid.exists_eq_cons {s : List Char} (h : IsValid s) :
    ∃ c rest, s = c :: rest ∧ isLiteralChar c = true := by
  obtain ⟨hall, hdigit, -⟩ := h
  cases s with
  | nil => exact nomatch hdigit
  | cons c rest => exact ⟨c, rest, rfl, List.all_eq_true.1 hall c List.mem_cons_self⟩

theorem Literal.value_eq_ok_iff {s : List Char} {v : Binary64} :
    value s = .ok v ↔ IsValid s ∧ (decimal s).toBinary64 = v := by
  by_cases h : IsValid s
  · simp [value, read_of_isValid h, h, Except.map]
  · rcases s with _ | ⟨c, s⟩
    · simp [value, read, h, Except.map]
    · simp [value, read_of_not_isValid (List.cons_ne_nil c s) h, h, Except.map]

/-! ### Operands of one kind of operator -/

namespace Derivation

/-- The text with one operand. -/
def single : (op : Operator) → Derivation op.operandRule → Derivation op.rule
  | .plus => .term
  | .times => .factor

/-- Operands, and an operator with one operand more. -/
def chain : (op : Operator) → Derivation op.rule → Gap → Gap → Derivation op.operandRule →
    Derivation op.rule
  | .plus => .plus
  | .times => .times

@[simp] theorem text_single (op : Operator) (d : Derivation op.operandRule) :
    (single op d).text = d.text := by cases op <;> rfl

@[simp] theorem value_single (op : Operator) (d : Derivation op.operandRule) :
    (single op d).value = d.value := by cases op <;> rfl

@[simp] theorem text_chain (op : Operator) (left : Derivation op.rule) (b a : Gap)
    (right : Derivation op.operandRule) :
    (chain op left b a right).text =
      left.text ++ b.text ++ op.symbol :: (a.text ++ right.text) := by cases op <;> rfl

@[simp] theorem value_chain (op : Operator) (left : Derivation op.rule) (b a : Gap)
    (right : Derivation op.operandRule) :
    (chain op left b a right).value = op.apply left.value right.value := by cases op <;> rfl

/-- Operands come one after the other. -/
theorem operands_induction (op : Operator) {P : Derivation op.rule → Prop}
    (first : ∀ f, P (single op f)) (more : ∀ left b a right, P left → P (chain op left b a right))
    (d : Derivation op.rule) : P d := by
  cases op with
  | plus => exact expression first more d
  | times => exact term first more d
where
  expression {P : Derivation .expression → Prop} (first : ∀ f, P (.term f))
      (more : ∀ left b a right, P left → P (.plus left b a right)) : ∀ d, P d
    | .term f => first f
    | .plus left b a right => more left b a right (expression first more left)
  term {P : Derivation .term → Prop} (first : ∀ f, P (.factor f))
      (more : ∀ left b a right, P left → P (.times left b a right)) : ∀ d, P d
    | .factor f => first f
    | .times left b a right => more left b a right (term first more left)

/-- The factor is a literal. -/
def IsLiteral : Derivation .factor → Prop
  | .literal _ _ => True
  | .parenthesised _ _ _ => False

/-! ### How texts begin -/

/-- The text of a derivation begins with an opening parenthesis or a literal. -/
theorem exists_text_eq_cons {rule : Rule} (d : Derivation rule) :
    ∃ c rest, d.text = c :: rest ∧ (c = '(' ∨ isLiteralChar c = true) := by
  induction d with
  | literal s valid =>
    obtain ⟨c, rest, h, hc⟩ := valid.exists_eq_cons
    exact ⟨c, rest, h, .inr hc⟩
  | parenthesised b inner a _ => exact ⟨'(', _, rfl, .inl rfl⟩
  | factor _ ih => exact ih
  | term _ ih => exact ih
  | times left b a right ih _ =>
    obtain ⟨c, rest, h, hc⟩ := ih
    exact ⟨c, _, by rw [text, h]; rfl, hc⟩
  | plus left b a right ih _ =>
    obtain ⟨c, rest, h, hc⟩ := ih
    exact ⟨c, _, by rw [text, h]; rfl, hc⟩

/-- No blank comes first. -/
theorem noneFirst_isBlank {rule : Rule} (d : Derivation rule) (r : List Char) :
    NoneFirst isBlank (d.text ++ r) := by
  obtain ⟨c, rest, h, hc⟩ := d.exists_text_eq_cons
  rw [h]
  apply NoneFirst.cons
  rcases hc with rfl | hc
  · exact isBlank_marks.2.2.1
  · exact Literal.isBlank_of_isLiteralChar hc

end Derivation

/-- The character of an operator is no blank and belongs to no literal. -/
theorem Operator.symbol_class (op : Operator) :
    isBlank op.symbol = false ∧ isLiteralChar op.symbol = false := by
  cases op <;> decide

theorem isLiteralChar_of_isBlank {c : Char} (h : isBlank c = true) : isLiteralChar c = false := by
  cases hl : isLiteralChar c with
  | false => rfl
  | true => exact absurd h (by simp [Literal.isBlank_of_isLiteralChar hl])

/-- A literal ends before a gap. -/
theorem NoneFirst.gap_append {g : Gap} {r : List Char} (h : NoneFirst isLiteralChar r) :
    NoneFirst isLiteralChar (g.text ++ r) := by
  rcases g with ⟨_ | ⟨c, g⟩, hg⟩
  · exact h
  · rw [List.all_cons, Bool.and_eq_true] at hg
    exact .cons (isLiteralChar_of_isBlank hg.1)

end SumProduct
