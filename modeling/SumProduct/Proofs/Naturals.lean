import SumProduct.Proofs.Binary64.ExactRounding
import SumProduct.Proofs.Grammar.Language

/-!
# Natural numbers are computed exactly

A binary64 number has 53 bits, and so the natural numbers up to `2 ^ 53` are among them, with none
left out. As long as an expression is made of such numbers and never leaves them, not in a literal,
nor in a sum or product on the way to its value, no rounding changes anything, and the value is the
exact one (`naturals_computed_exactly`). A literal may have a point and zeros behind it.

At the end of the range the condition cannot be dropped: `2 ^ 53 + 1` is rounded to `2 ^ 53`.
-/

namespace SumProduct

/-! ### Natural numbers in binary64 -/

/-- The number is this natural number, with the positive sign. -/
def Binary64.IsNatural (v : Binary64) (n : ℕ) : Prop :=
  ∃ m : Magnitude, v = .finite false m ∧ m.toRat = n

namespace Binary64.IsNatural

variable {x y : Binary64} {a b : ℕ}

theorem add (hx : x.IsNatural a) (hy : y.IsNatural b) (h : a + b ≤ 2 ^ 53) :
    (x + y).IsNatural (a + b) := by
  obtain ⟨m, rfl, hm⟩ := hx
  obtain ⟨n, rfl, hn⟩ := hy
  obtain ⟨r, hr⟩ := Magnitude.exists_natural h
  rw [Magnitude.toRat_eq_natCast_iff] at hm hn
  have hunits : m.units + n.units = r.units * 1 := by rw [hm, hn, hr, Nat.mul_one, Nat.add_mul]
  rw [finite_add_finite, hunits, ofUnits_units false r Nat.one_pos]
  exact ⟨r, rfl, Magnitude.toRat_eq_natCast_iff.2 hr⟩

theorem mul (hx : x.IsNatural a) (hy : y.IsNatural b) (h : a * b ≤ 2 ^ 53) :
    (x * y).IsNatural (a * b) := by
  obtain ⟨m, rfl, hm⟩ := hx
  obtain ⟨n, rfl, hn⟩ := hy
  obtain ⟨r, hr⟩ := Magnitude.exists_natural h
  rw [Magnitude.toRat_eq_natCast_iff] at hm hn
  have hunits : m.units * n.units = r.units * Magnitude.unitsPerOne := by
    rw [hm, hn, hr, Nat.mul_mul_mul_comm, Nat.mul_assoc (a * b)]
  rw [finite_mul_finite, hunits, ofUnits_units (false ^^ false) r Magnitude.unitsPerOne_pos]
  exact ⟨r, rfl, Magnitude.toRat_eq_natCast_iff.2 hr⟩

end Binary64.IsNatural

theorem Decimal.isNatural_toBinary64 {d : Decimal} {n : ℕ} (hd : d.toRat = n) (h : n ≤ 2 ^ 53) :
    d.toBinary64.IsNatural n := by
  obtain ⟨m, hm⟩ := Magnitude.exists_natural h
  rw [← Magnitude.toRat_eq_natCast_iff] at hm
  exact ⟨m, toBinary64_of_toRat_eq (hd.trans hm.symm), hm⟩

/-! ### Expressions of natural numbers -/

namespace Derivation

/-- The value of the text derived if nothing is rounded. -/
def exactValue {rule : Rule} : Derivation rule → ℚ
  | .literal s _ => (Literal.decimal s).toRat
  | .parenthesised _ inner _ => inner.exactValue
  | .factor only => only.exactValue
  | .times left _ _ right => left.exactValue * right.exactValue
  | .term only => only.exactValue
  | .plus left _ _ right => left.exactValue + right.exactValue

/-- All literals denote natural numbers, and no literal, no product and no sum on the way is
greater than the bound. -/
def NaturalUpTo (bound : ℕ) {rule : Rule} : Derivation rule → Prop
  | .literal s _ => ∃ n : ℕ, (Literal.decimal s).toRat = n ∧ n ≤ bound
  | .parenthesised _ inner _ => inner.NaturalUpTo bound
  | .factor only => only.NaturalUpTo bound
  | .times left _ _ right => left.NaturalUpTo bound ∧ right.NaturalUpTo bound ∧
      left.exactValue * right.exactValue ≤ bound
  | .term only => only.NaturalUpTo bound
  | .plus left _ _ right => left.NaturalUpTo bound ∧ right.NaturalUpTo bound ∧
      left.exactValue + right.exactValue ≤ bound

/-- An expression that does not leave the natural numbers up to `2 ^ 53` has its exact value. -/
theorem NaturalUpTo.isNatural {rule : Rule} {d : Derivation rule} (h : d.NaturalUpTo (2 ^ 53)) :
    ∃ n : ℕ, d.exactValue = n ∧ d.value.IsNatural n := by
  induction d with
  | literal s valid =>
    obtain ⟨n, hn, hle⟩ := h
    exact ⟨n, hn, Decimal.isNatural_toBinary64 hn hle⟩
  | parenthesised before inner after ih => exact ih h
  | factor only ih => exact ih h
  | times left before after right ihl ihr =>
    obtain ⟨hl, hr, hle⟩ := h
    obtain ⟨a, ha, hx⟩ := ihl hl
    obtain ⟨b, hb, hy⟩ := ihr hr
    have hle' : a * b ≤ 2 ^ 53 := by rw [ha, hb] at hle; exact_mod_cast hle
    exact ⟨a * b, by rw [exactValue, ha, hb, Nat.cast_mul], hx.mul hy hle'⟩
  | term only ih => exact ih h
  | plus left before after right ihl ihr =>
    obtain ⟨hl, hr, hle⟩ := h
    obtain ⟨a, ha, hx⟩ := ihl hl
    obtain ⟨b, hb, hy⟩ := ihr hr
    have hle' : a + b ≤ 2 ^ 53 := by rw [ha, hb] at hle; exact_mod_cast hle
    exact ⟨a + b, by rw [exactValue, ha, hb, Nat.cast_add], hx.add hy hle'⟩

end Derivation

/-- **Natural numbers are computed exactly**: a text that has a value is a sentence, and if no
literal, product or sum of the sentence leaves the natural numbers up to `2 ^ 53`, the value of the
text is the natural number that the sentence has as its exact value. -/
theorem naturals_computed_exactly (s : String) :
    (∀ v, evaluate s = .ok v → ∃ t : Sentence, t.text = s.toList) ∧
      ∀ t : Sentence, t.text = s.toList → t.derivation.NaturalUpTo (2 ^ 53) →
        ∃ (n : ℕ) (v : Binary64), t.derivation.exactValue = n ∧ evaluate s = .ok v ∧
          v.IsNatural n := by
  constructor
  · intro v hv
    obtain ⟨t, ht, -⟩ := evaluate_eq_ok_iff.1 hv
    exact ⟨t, ht⟩
  · intro t ht h
    obtain ⟨n, hn, hv⟩ := h.isNatural
    exact ⟨n, t.value, hn, evaluate_eq_ok_iff.2 ⟨t, ht, rfl⟩, hv⟩

/-- The text `(9007199254740990+2.0)*1` as a sentence. -/
def Sentence.largestSum : Sentence :=
  ⟨.empty, .term (.times
    (.factor (.parenthesised .empty (.plus
      (.term (.factor (.literal "9007199254740990".toList (by decide)))) .empty .empty
      (.factor (.literal "2.0".toList (by decide)))) .empty)) .empty .empty
    (.literal "1".toList (by decide))), .empty⟩

theorem naturals_computed_exactly_largest_sum :
    Sentence.largestSum.text = "(9007199254740990+2.0)*1".toList ∧
      Sentence.largestSum.derivation.NaturalUpTo (2 ^ 53) ∧
      ∃ v, evaluate "(9007199254740990+2.0)*1" = .ok v ∧ v.IsNatural (2 ^ 53) := by
  have h₁ : Literal.decimal "9007199254740990".toList = ⟨9007199254740990, 0⟩ := rfl
  have h₂ : Literal.decimal "2.0".toList = ⟨20, -1⟩ := rfl
  have h₃ : Literal.decimal "1".toList = ⟨1, 0⟩ := rfl
  have htext : Sentence.largestSum.text = "(9007199254740990+2.0)*1".toList := rfl
  have hsmall : Sentence.largestSum.derivation.NaturalUpTo (2 ^ 53) := by
    simp only [Sentence.largestSum, Derivation.NaturalUpTo, Derivation.exactValue, h₁, h₂, h₃,
      Decimal.toRat]
    refine ⟨⟨⟨9007199254740990, ?_⟩, ⟨2, ?_⟩, ?_⟩, ⟨1, ?_⟩, ?_⟩ <;> norm_num
  obtain ⟨n, v, hn, hv, hvalue⟩ := (naturals_computed_exactly _).2 Sentence.largestSum htext hsmall
  have hexact : Sentence.largestSum.derivation.exactValue = (2 ^ 53 : ℕ) := by
    simp only [Sentence.largestSum, Derivation.exactValue, h₁, h₂, h₃, Decimal.toRat]
    norm_num
  obtain rfl : n = 2 ^ 53 := Nat.cast_injective (hn.symm.trans hexact)
  exact ⟨htext, hsmall, v, hv, hvalue⟩

/-- The next natural number is none of binary64. -/
example : sameResult (evaluate "9007199254740992+1") (evaluate "9007199254740992") = true := by
  decide +kernel

end SumProduct
