import SumProduct.Proofs.Grammar.Language

/-!
# Signs of results, and results that are no number

There is no minus in expressions, and so no value ever gets a sign: literals have none, and sums and
products of numbers without a sign have none (`Binary64.Unsigned`). Negative numbers do not come up,
nor does the negative zero.

Without signs a sum is a number if both of its operands are, and a product is one too, unless it is
that of zero and infinity (`Binary64.ZeroByInfinity`). What is no number stays none. So a result is
no number exactly if somewhere on the way zero is multiplied by infinity
(`Derivation.value_eq_nan_iff`). Infinity comes from literals that are too large, and from sums and
products that are.
-/

namespace SumProduct

/-! ### Numbers without a sign -/

namespace Binary64

/-- Not a number, or one with the positive sign. -/
def Unsigned : Binary64 → Prop
  | .nan => True
  | .infinite negative => negative = false
  | .finite negative _ => negative = false

/-- One of the numbers is zero and the other one infinity, both with the positive sign. -/
def ZeroByInfinity (x y : Binary64) : Prop :=
  x = .finite false Magnitude.zero ∧ y = .infinite false ∨
    x = .infinite false ∧ y = .finite false Magnitude.zero

theorem unsigned_ofUnits (num den : Nat) : (ofUnits false num den).Unsigned := by
  simp only [ofUnits]
  split <;> rfl

theorem ofUnits_ne_nan (negative : Bool) (num den : Nat) : ofUnits negative num den ≠ .nan := by
  simp only [ofUnits]
  split <;> simp

theorem finite_eq_zero_iff {m : Magnitude} :
    finite false m = finite false Magnitude.zero ↔ m.rank = 0 := by
  rcases m with ⟨rank, hrank⟩
  simp [Magnitude.zero]

variable {x y : Binary64}

/-- What there is without a sign. -/
theorem Unsigned.eq_or (h : x.Unsigned) :
    x = .nan ∨ x = .infinite false ∨ ∃ m, x = .finite false m := by
  cases x with
  | nan => exact .inl rfl
  | infinite negative =>
    obtain rfl : negative = false := h
    exact .inr (.inl rfl)
  | finite negative m =>
    obtain rfl : negative = false := h
    exact .inr (.inr ⟨m, rfl⟩)

/-- A number without a sign has a clear sign bit. -/
theorem Unsigned.sign_bit_clear (h : x.Unsigned) :
    x = .nan ∨ ∃ bits, x.encoding? = some bits ∧ bits.testBit 63 = false := by
  rcases h.eq_or with rfl | rfl | ⟨m, rfl⟩
  · exact .inl rfl
  · exact .inr ⟨_, rfl, by decide +kernel⟩
  · have hlt : m.rank < 2 ^ 63 := Nat.lt_trans m.rank_lt (by decide +kernel)
    refine .inr ⟨m.rank, by simp [encoding?], ?_⟩
    exact Nat.testBit_lt_two_pow hlt

theorem Unsigned.add (hx : x.Unsigned) (hy : y.Unsigned) : (x + y).Unsigned := by
  rcases hx.eq_or with rfl | rfl | ⟨a, rfl⟩
  · trivial
  · rcases hy.eq_or with rfl | rfl | ⟨b, rfl⟩ <;> trivial
  · rcases hy.eq_or with rfl | rfl | ⟨b, rfl⟩
    · trivial
    · trivial
    · rw [finite_add_finite]
      exact unsigned_ofUnits _ _

/-- A sum of numbers without a sign is a number. -/
theorem Unsigned.add_eq_nan_iff (hx : x.Unsigned) (hy : y.Unsigned) :
    x + y = .nan ↔ x = .nan ∨ y = .nan := by
  rcases hx.eq_or with rfl | rfl | ⟨a, rfl⟩
  · simp
  · rcases hy.eq_or with rfl | rfl | ⟨b, rfl⟩ <;> simp
  · rcases hy.eq_or with rfl | rfl | ⟨b, rfl⟩
    · simp
    · simp
    · simp [finite_add_finite, ofUnits_ne_nan]

theorem Unsigned.mul (hx : x.Unsigned) (hy : y.Unsigned) : (x * y).Unsigned := by
  rcases hx.eq_or with rfl | rfl | ⟨a, rfl⟩
  · trivial
  · rcases hy.eq_or with rfl | rfl | ⟨b, rfl⟩
    · trivial
    · trivial
    · rw [infinite_mul_finite]
      split <;> trivial
  · rcases hy.eq_or with rfl | rfl | ⟨b, rfl⟩
    · trivial
    · rw [finite_mul_infinite]
      split <;> trivial
    · rw [finite_mul_finite, Bool.xor_self]
      generalize Magnitude.unitsPerOne = den
      exact unsigned_ofUnits (a.units * b.units) den

/-- A product of numbers without a sign is a number but for that of zero and infinity. -/
theorem Unsigned.mul_eq_nan_iff (hx : x.Unsigned) (hy : y.Unsigned) :
    x * y = .nan ↔ x = .nan ∨ y = .nan ∨ ZeroByInfinity x y := by
  rcases hx.eq_or with rfl | rfl | ⟨a, rfl⟩
  · simp
  · rcases hy.eq_or with rfl | rfl | ⟨b, rfl⟩
    · simp
    · simp [ZeroByInfinity]
    · simp [infinite_mul_finite, ZeroByInfinity, ← finite_eq_zero_iff]
  · rcases hy.eq_or with rfl | rfl | ⟨b, rfl⟩
    · simp
    · simp [finite_mul_infinite, ZeroByInfinity, ← finite_eq_zero_iff]
    · simp [finite_mul_finite, ofUnits_ne_nan, ZeroByInfinity]

end Binary64

/-! ### Values of expressions -/

namespace Derivation

/-- Somewhere on the way to the value zero is multiplied by infinity. -/
def MultipliesZeroByInfinity {rule : Rule} : Derivation rule → Prop
  | .literal _ _ => False
  | .parenthesised _ inner _ => inner.MultipliesZeroByInfinity
  | .factor only => only.MultipliesZeroByInfinity
  | .times left _ _ right => left.MultipliesZeroByInfinity ∨ right.MultipliesZeroByInfinity ∨
      Binary64.ZeroByInfinity left.value right.value
  | .term only => only.MultipliesZeroByInfinity
  | .plus left _ _ right => left.MultipliesZeroByInfinity ∨ right.MultipliesZeroByInfinity

theorem unsigned_value {rule : Rule} (d : Derivation rule) : d.value.Unsigned := by
  induction d with
  | literal s valid => exact Binary64.unsigned_ofUnits _ _
  | parenthesised before inner after ih => exact ih
  | factor only ih => exact ih
  | times left before after right ihl ihr => exact ihl.mul ihr
  | term only ih => exact ih
  | plus left before after right ihl ihr => exact ihl.add ihr

/-- A value is no number exactly if zero is multiplied by infinity on the way to it. -/
theorem value_eq_nan_iff {rule : Rule} (d : Derivation rule) :
    d.value = .nan ↔ d.MultipliesZeroByInfinity := by
  induction d with
  | literal s valid =>
    simp [value, MultipliesZeroByInfinity, Decimal.toBinary64, Binary64.ofUnits_ne_nan]
  | parenthesised before inner after ih => exact ih
  | factor only ih => exact ih
  | times left before after right ihl ihr =>
    rw [value, left.unsigned_value.mul_eq_nan_iff right.unsigned_value, ihl, ihr]
    exact Iff.rfl
  | term only ih => exact ih
  | plus left before after right ihl ihr =>
    rw [value, left.unsigned_value.add_eq_nan_iff right.unsigned_value, ihl, ihr]
    exact Iff.rfl

/-- Where nothing is multiplied, zero is not multiplied by infinity. -/
theorem times_mem_text {rule : Rule} {d : Derivation rule} (h : d.MultipliesZeroByInfinity) :
    '*' ∈ d.text := by
  induction d with
  | literal s valid => exact h.elim
  | parenthesised before inner after ih => simp [text, ih h]
  | factor only ih => exact ih h
  | times left before after right ihl ihr => simp [text, Operator.symbol]
  | term only ih => exact ih h
  | plus left before after right ihl ihr =>
    rcases h with h | h
    · simp [text, ihl h]
    · simp [text, ihr h]

end Derivation

theorem sameResult_self_iff {s : String} {v : Binary64} (h : evaluate s = .ok v) :
    sameResult (evaluate s) (evaluate s) = true ↔ v ≠ .nan := by
  rw [h]
  exact v.equals_self

/-- **The range of results**: a result is not a number, or its sign bit is clear. It is not a number
exactly if the one sentence that the text is multiplies zero by infinity on the way. So a text has
the same result as itself exactly if it does not do that, as for every text without a product. -/
theorem range_of_results {s : String} {v : Binary64} (h : evaluate s = .ok v) :
    (v = .nan ∨ ∃ bits, v.encoding? = some bits ∧ bits.testBit 63 = false) ∧
      ∃ t : Sentence, (∀ u : Sentence, u.text = s.toList ↔ u = t) ∧
        (v = .nan ↔ t.derivation.MultipliesZeroByInfinity) ∧
        (sameResult (evaluate s) (evaluate s) = true ↔ ¬ t.derivation.MultipliesZeroByInfinity) ∧
        ('*' ∉ s.toList → sameResult (evaluate s) (evaluate s) = true) := by
  obtain ⟨t, ht, rfl⟩ := exists_sentence_of_evaluate h
  have htext : t.text = s.toList := (ht t).2 rfl
  have hnan : t.value = .nan ↔ t.derivation.MultipliesZeroByInfinity :=
    t.derivation.value_eq_nan_iff
  refine ⟨t.derivation.unsigned_value.sign_bit_clear, t, ht, hnan, ?_, fun hs => ?_⟩
  · rw [sameResult_self_iff h, ne_eq, hnan]
  · rw [sameResult_self_iff h, ne_eq, hnan]
    intro hmul
    have hmem : '*' ∈ t.text := by simp [Sentence.text, Derivation.times_mem_text hmul]
    exact hs (htext ▸ hmem)

/-- The text `0*1…0` with 309 zeros at its end, as a sentence. -/
def Sentence.zeroTimesLarge : Sentence :=
  ⟨.empty, .term (.times (.factor (.literal ['0'] (by decide))) .empty .empty
    (.literal ('1' :: List.replicate 309 '0') (by decide +kernel))), .empty⟩

theorem range_of_results_zero_times_large :
    evaluate (String.ofList ('0' :: '*' :: '1' :: List.replicate 309 '0')) = .ok .nan ∧
      Sentence.zeroTimesLarge.derivation.MultipliesZeroByInfinity := by
  have htext : Sentence.zeroTimesLarge.text =
      (String.ofList ('0' :: '*' :: '1' :: List.replicate 309 '0')).toList := by
    rw [String.toList_ofList]
    decide +kernel
  have hzero : (Literal.decimal ['0']).toBinary64 = .finite false Magnitude.zero := by
    decide +kernel
  have hlarge : (Literal.decimal ('1' :: List.replicate 309 '0')).toBinary64 = .infinite false := by
    decide +kernel
  have hmul : Sentence.zeroTimesLarge.derivation.MultipliesZeroByInfinity :=
    .inr (.inr (.inl ⟨hzero, hlarge⟩))
  have hvalue : evaluate (String.ofList ('0' :: '*' :: '1' :: List.replicate 309 '0')) =
      .ok Sentence.zeroTimesLarge.value := evaluate_eq_ok_iff.2 ⟨_, htext, rfl⟩
  obtain ⟨-, t, ht, hnan, -, -⟩ := range_of_results hvalue
  obtain rfl : Sentence.zeroTimesLarge = t := (ht _).1 htext
  exact ⟨by rw [hvalue, hnan.2 hmul], hmul⟩

end SumProduct
