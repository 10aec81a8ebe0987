import SumProduct.Decimal
import SumProduct.Grammar.Basic
import SumProduct.Proofs.Binary64.ExactRounding

/-!
# Printed magnitudes

What is printed for a magnitude denotes a decimal that is rounded to just this magnitude
(`Magnitude.rank_shortest`). Written positionally it is a literal, and the literal denotes the
decimal (`Decimal.isValid_positionalText`, `Decimal.toRat_positionalText`). In scientific form it is
a literal and then an `e`, which no literal has (`Decimal.scientificText_eq`).

Positional are zero and the magnitudes from `1 / 10000` up to but not including `10 ^ 16`
(`Magnitude.isPositional_iff`). The two bounds are those of the program, which are magnitudes
themselves: the lower one is the first magnitude that is not below `1 / 10000`.
-/

namespace SumProduct

/-! ### Digits -/

namespace Literal

variable {whole fraction : List Char}

theorem integerValue_eq (digits : List Char) : integerValue digits = Nat.ofDigitChars 10 digits 0 :=
  Nat.ofDigitChars_eq_foldl.symm

theorem all_isLiteralChar_of_digits (h : whole.all Char.isDigit = true) :
    whole.all isLiteralChar = true := by
  rw [List.all_eq_true] at h ⊢
  intro c hc
  rw [isLiteralChar, h c hc, Bool.true_or]

theorem point_not_mem_digits (h : whole.all Char.isDigit = true) : '.' ∉ whole := by
  intro hmem
  have := List.all_eq_true.1 h _ hmem
  exact absurd this (by decide)

theorem all_ne_point_of_digits (h : whole.all Char.isDigit = true) :
    whole.all (· != '.') = true := by
  rw [List.all_eq_true]
  intro c hc
  rw [bne_iff_ne]
  rintro rfl
  exact point_not_mem_digits h hc

/-- Digits are a literal. -/
theorem isValid_digits (hne : whole ≠ []) (h : whole.all Char.isDigit = true) : IsValid whole := by
  obtain ⟨c, rest, rfl⟩ := List.exists_cons_of_ne_nil hne
  refine ⟨all_isLiteralChar_of_digits h, ?_, ?_⟩
  · rw [List.all_cons, Bool.and_eq_true] at h
    rw [List.any_cons, h.1, Bool.true_or]
  · rw [List.count_eq_zero_of_not_mem (point_not_mem_digits h)]
    exact Nat.zero_le 1

/-- Digits, a point and digits are a literal. -/
theorem isValid_point (hne : whole ≠ []) (hw : whole.all Char.isDigit = true)
    (hf : fraction.all Char.isDigit = true) : IsValid (whole ++ '.' :: fraction) := by
  obtain ⟨hall, hany, -⟩ := isValid_digits hne hw
  refine ⟨?_, ?_, ?_⟩
  · rw [List.all_append, List.all_cons, hall, all_isLiteralChar_of_digits hf]
    rfl
  · rw [List.any_append, hany, Bool.true_or]
  · rw [List.count_append, List.count_cons_self,
      List.count_eq_zero_of_not_mem (point_not_mem_digits hw),
      List.count_eq_zero_of_not_mem (point_not_mem_digits hf)]

/-- What digits, a point and digits denote. -/
theorem decimal_point (hw : whole.all Char.isDigit = true) (hf : fraction.all Char.isDigit = true) :
    decimal (whole ++ '.' :: fraction) = ⟨integerValue (whole ++ fraction), -fraction.length⟩ := by
  have hdigits : (whole ++ '.' :: fraction).filter Char.isDigit = whole ++ fraction := by
    rw [List.filter_append, List.filter_cons_of_neg (by decide),
      List.filter_eq_self.2 (List.all_eq_true.1 hw), List.filter_eq_self.2 (List.all_eq_true.1 hf)]
  have hplaces : places (whole ++ '.' :: fraction) = fraction.length := by
    rw [places, List.dropWhile_append_of_pos (List.all_eq_true.1 (all_ne_point_of_digits hw))]
    rfl
  rw [decimal, hdigits, hplaces]

end Literal

namespace Decimal

theorem integerText_ne_nil (n : ℕ) : integerText n ≠ [] := Nat.toDigits_ne_nil

theorem all_isDigit_integerText (n : ℕ) : (integerText n).all Char.isDigit = true :=
  List.all_eq_true.2 fun _ h => Nat.isDigit_of_mem_toDigits (by decide) (by decide) h

theorem all_isDigit_paddedText (width n : ℕ) : (paddedText width n).all Char.isDigit = true := by
  rw [paddedText, List.all_append, all_isDigit_integerText, Bool.and_true]
  simp

section Padding

variable {width n : ℕ}

theorem length_paddedText (hwidth : 0 < width) (hn : n < 10 ^ width) :
    (paddedText width n).length = width := by
  have hle : (integerText n).length ≤ width :=
    (Nat.length_toDigits_le_iff (by decide) hwidth).2 hn
  simp only [paddedText, List.length_append, List.length_replicate]
  omega

theorem integerValue_append_paddedText (m : ℕ) (hwidth : 0 < width) (hn : n < 10 ^ width) :
    Literal.integerValue (integerText m ++ paddedText width n) = 10 ^ width * m + n := by
  have hpadded : Nat.ofDigitChars 10 (paddedText width n) 0 = n := by
    rw [paddedText, Nat.ofDigitChars_append, Nat.ofDigitChars_replicate_zero, Nat.mul_zero,
      integerText, Nat.ofDigitChars_ten_toDigits]
  rw [Literal.integerValue_eq, Nat.ofDigitChars_append, Nat.ofDigitChars_eq_ofDigitChars_zero,
    length_paddedText hwidth hn, hpadded, integerText, Nat.ofDigitChars_ten_toDigits]

end Padding

/-! ### Positional texts -/

theorem isValid_positionalText (d : Decimal) : Literal.IsValid d.positionalText := by
  simp only [positionalText]
  split
  · exact Literal.isValid_point (integerText_ne_nil _) (all_isDigit_integerText _) (by decide)
  · exact Literal.isValid_point (integerText_ne_nil _) (all_isDigit_integerText _)
      (all_isDigit_paddedText _ _)

/-- **A positional text denotes what is written**. -/
theorem toRat_positionalText (d : Decimal) :
    (Literal.decimal d.positionalText).toRat = d.toRat := by
  simp only [positionalText]
  split
  · next hplaces =>
    -- a zero is appended behind the point
    have hpadded : paddedText 1 0 = ['0'] := rfl
    have hvalue : Literal.integerValue (integerText d.numerator ++ ['0']) =
        10 ^ 1 * d.numerator + 0 := by
      rw [← hpadded]
      exact integerValue_append_paddedText d.numerator (by decide) (by decide)
    rw [Literal.decimal_point (all_isDigit_integerText _) (by decide), hvalue, d.toRat_eq, toRat,
      denominator, hplaces]
    simp
    ring
  · next hplaces =>
    have hpos : 0 < (-d.exponent).toNat := Nat.pos_of_ne_zero hplaces
    have hrest : d.digits % 10 ^ (-d.exponent).toNat < 10 ^ (-d.exponent).toNat :=
      Nat.mod_lt _ (Nat.pow_pos (by decide))
    rw [Literal.decimal_point (all_isDigit_integerText _) (all_isDigit_paddedText _ _), Nat.pow_eq,
      integerValue_append_paddedText _ hpos hrest, length_paddedText hpos hrest, Nat.div_add_mod]
    have hexponent : -((-d.exponent).toNat : ℤ) = d.exponent := by omega
    rw [hexponent]

/-! ### Scientific texts -/

/-- **A scientific text has its literal and then an `e`**, which no literal has. -/
theorem scientificText_eq (d : Decimal) :
    ∃ literal exponent,
      d.scientificText = literal ++ 'e' :: exponent ∧ Literal.IsValid literal := by
  obtain ⟨first, others, htext⟩ := List.exists_cons_of_ne_nil (integerText_ne_nil d.digits)
  have hdigits := all_isDigit_integerText d.digits
  rw [htext, List.all_cons, Bool.and_eq_true] at hdigits
  have hfirst : [first].all Char.isDigit = true := by rw [List.all_cons, hdigits.1]; rfl
  simp only [scientificText, htext]
  cases others with
  | nil => exact ⟨[first], _, rfl, Literal.isValid_digits (by simp) hfirst⟩
  | cons c rest =>
    exact ⟨[first] ++ '.' :: (c :: rest), _, rfl, Literal.isValid_point (by simp) hfirst hdigits.2⟩

end Decimal

/-! ### Shortest decimals -/

namespace Magnitude

variable {m : Magnitude}

/-- A number of `2 ^ -n` is `5 ^ n` as many of `10 ^ -n`. -/
theorem rank_of_unitsPerOne_eq (m : Magnitude) {n : ℕ} (h : unitsPerOne = 2 ^ n) :
    (Decimal.mk (m.units * Nat.pow 5 n) (-n)).rank = m.rank := by
  have htop : (-(n : ℤ)).toNat = 0 := by omega
  have hbottom : (- -(n : ℤ)).toNat = n := by omega
  have hnumerator : m.units * 5 ^ n * 10 ^ 0 * 2 ^ n = m.units * 10 ^ n := by
    rw [pow_zero, Nat.mul_one, Nat.mul_assoc, ← Nat.mul_pow]
  simp only [Decimal.rank, Decimal.numerator, Decimal.denominator, htop, hbottom, Nat.pow_eq, h]
  rw [hnumerator, nearestRank_units m (Nat.pow_pos (by decide))]

theorem rank_exactDecimal (m : Magnitude) : m.exactDecimal.rank = m.rank := by
  have hexponent : (-1074 : ℤ) = -((1074 : ℕ) : ℤ) := rfl
  have hone := unitsPerOne_eq
  rw [exactDecimal, hexponent]
  -- the powers are too large to be computed in passing
  generalize 1074 = n at hone ⊢
  exact m.rank_of_unitsPerOne_eq hone

theorem rank_shortestFrom (m : Magnitude) (steps : ℕ) : (m.shortestFrom steps).rank = m.rank := by
  induction steps with
  | zero => exact m.rank_exactDecimal
  | succ steps ih =>
    rw [shortestFrom]
    cases h : m.onGrid? ((steps : ℤ) + 1 - 1074) with
    | some d => exact rank_of_onGrid? h
    | none => exact ih

/-- **The shortest decimal is rounded to the magnitude** that it is printed for. -/
theorem rank_shortest (m : Magnitude) : m.shortest.rank = m.rank := m.rank_shortestFrom _

theorem toBinary64_positionalText (m : Magnitude) :
    (Literal.decimal m.shortest.positionalText).toBinary64 = .finite false m :=
  Decimal.toBinary64_of_rank_eq
    ((Decimal.rank_congr m.shortest.toRat_positionalText).trans m.rank_shortest)

/-! ### Positional magnitudes -/

theorem toRat_le_toRat {m n : Magnitude} (h : m.rank ≤ n.rank) : m.toRat ≤ n.toRat := by
  have hunits : (m.units : ℚ) ≤ n.units := by exact_mod_cast units_le_units h
  exact div_le_div_of_nonneg_right hunits (Nat.cast_nonneg _)

theorem toRat_eq_zero_iff : m.toRat = 0 ↔ m.rank = 0 := by
  have hzero : m.toRat = (0 : ℕ) ↔ m.units = 0 * unitsPerOne := toRat_eq_natCast_iff
  rw [Nat.cast_zero, Nat.zero_mul, units_eq_zero] at hzero
  rw [hzero]
  constructor
  · rintro rfl
    rfl
  · intro h
    rcases m with ⟨rank, hrank⟩
    obtain rfl : rank = 0 := h
    rfl

theorem toRat_lt_iff {d : Decimal} :
    m.toRat < d.toRat ↔ m.units * d.denominator < d.numerator * unitsPerOne := by
  have hone : (0 : ℚ) < unitsPerOne := by exact_mod_cast unitsPerOne_pos
  have hden : (0 : ℚ) < d.denominator := by exact_mod_cast d.denominator_pos
  rw [toRat, d.toRat_eq, div_lt_div_iff₀ hone hden]
  exact_mod_cast Iff.rfl

/-- A decimal bounds the same magnitudes as its rank if it is not rounded down. -/
theorem rank_le_iff {d : Decimal} (below least : Magnitude) (hrank : d.rank = least.rank)
    (hnext : least.rank = below.rank + 1) (hbelow : below.toRat < d.toRat)
    (hleast : ¬ least.toRat < d.toRat) (m : Magnitude) : d.rank ≤ m.rank ↔ d.toRat ≤ m.toRat := by
  constructor
  · intro h
    exact (not_lt.1 hleast).trans (toRat_le_toRat (hrank ▸ h))
  · intro h
    by_contra hlt
    have hle : m.rank ≤ below.rank := by omega
    exact absurd (h.trans (toRat_le_toRat hle)) (not_le.2 hbelow)

theorem leastPositional_rank_le_iff (m : Magnitude) :
    Decimal.leastPositional.rank ≤ m.rank ↔ Decimal.leastPositional.toRat ≤ m.toRat := by
  -- the magnitudes on both sides of `1 / 10000`
  refine rank_le_iff ⟨4547007122018943788, by decide +kernel⟩
    ⟨4547007122018943789, by decide +kernel⟩ (by decide +kernel) rfl ?_ ?_ m
  · rw [toRat_lt_iff]; decide +kernel
  · rw [toRat_lt_iff]; decide +kernel

theorem leastLarge_rank_le_iff (m : Magnitude) :
    Decimal.leastLarge.rank ≤ m.rank ↔ Decimal.leastLarge.toRat ≤ m.toRat := by
  -- the magnitude before `10 ^ 16`, and `10 ^ 16`
  refine rank_le_iff ⟨4846369599423283199, by decide +kernel⟩
    ⟨4846369599423283200, by decide +kernel⟩ (by decide +kernel) rfl ?_ ?_ m
  · rw [toRat_lt_iff]; decide +kernel
  · rw [toRat_lt_iff]; decide +kernel

/-- **What is written positionally**: zero, and what is at least `1 / 10000` and less than
`10 ^ 16`. -/
theorem isPositional_iff :
    m.isPositional = true ↔ m.toRat = 0 ∨ 1 / 10000 ≤ m.toRat ∧ m.toRat < 10 ^ 16 := by
  have hleast : Decimal.leastPositional.toRat = 1 / 10000 := by
    norm_num [Decimal.toRat, Decimal.leastPositional]
  have hlarge : Decimal.leastLarge.toRat = 10 ^ 16 := by
    norm_num [Decimal.toRat, Decimal.leastLarge]
  rw [isPositional, Bool.or_eq_true, Bool.and_eq_true, beq_iff_eq, decide_eq_true_iff,
    decide_eq_true_iff, toRat_eq_zero_iff, leastPositional_rank_le_iff, hleast, ← not_le,
    leastLarge_rank_le_iff, hlarge, not_le]

end Magnitude

end SumProduct
