import Mathlib.Algebra.Order.Field.Rat
import Mathlib.Data.Rat.Cast.Order
import Mathlib.Tactic.FieldSimp
import Mathlib.Tactic.NormNum
import SumProduct.Decimal
import SumProduct.Proofs.Binary64.Magnitudes

/-!
# Rounding what need not be rounded

Rounding depends on the value of a quotient alone, not on how it is written
(`nearestRank_congr`), and a quotient that is a magnitude is rounded to it (`nearestRank_units`).
Sums, products and decimal texts whose exact value is a magnitude therefore come to just this
value.

The exact values are rational numbers: `Magnitude.toRat` of a magnitude, `Decimal.toRat` of what a
literal denotes or what a printed number shows.
-/

namespace SumProduct

/-! ### Only the quotient counts -/

theorem roundHalfEven_mul_right {k : ℕ} (num den : ℕ) (hk : 0 < k) :
    roundHalfEven (num * k) (den * k) = roundHalfEven num den := by
  have htwice : 2 * (num % den * k) = 2 * (num % den) * k := (Nat.mul_assoc _ _ _).symm
  simp only [roundHalfEven, Nat.mul_div_mul_right _ _ hk, Nat.mul_mod_mul_right, htwice,
    Nat.mul_lt_mul_right hk]

theorem nearestRank_mul_right {k : ℕ} (num den : ℕ) (hk : 0 < k) :
    nearestRank (num * k) (den * k) = nearestRank num den := by
  simp only [nearestRank, Nat.mul_div_mul_right _ _ hk, Nat.mul_right_comm den k,
    roundHalfEven_mul_right _ _ hk]

/-- **Rounding is of a quotient**: two ways to write it have the same nearest rank. -/
theorem nearestRank_congr {num den num' den' : ℕ} (hden : 0 < den) (hden' : 0 < den')
    (h : num * den' = num' * den) : nearestRank num den = nearestRank num' den' :=
  calc nearestRank num den = nearestRank (num * den') (den * den') :=
        (nearestRank_mul_right _ _ hden').symm
    _ = nearestRank (num' * den) (den' * den) := by rw [h, Nat.mul_comm den]
    _ = nearestRank num' den' := nearestRank_mul_right _ _ hden

/-! ### Magnitudes are rounded to themselves -/

theorem log2_of_fits {significand shift : ℕ} (h : Magnitude.Fits significand shift) :
    Nat.log2 (significand * 2 ^ shift) - 52 = shift := by
  have hlt := h.lt
  rcases h.normal with rfl | hnormal
  · rcases Nat.eq_zero_or_pos significand with rfl | hpos
    · rfl
    · have hlog := (Nat.log2_lt hpos.ne').2 hlt
      rw [pow_zero, Nat.mul_one]
      omega
  · have hlog : Nat.log2 (significand * 2 ^ shift) = 52 + shift := by
      rw [Nat.log2_eq_iff (by positivity), pow_add, Nat.add_right_comm, pow_add 2 53]
      exact ⟨Nat.mul_le_mul_right _ hnormal, Nat.mul_lt_mul_of_pos_right hlt (by positivity)⟩
    omega

theorem nearestRank_of_fits {significand shift den : ℕ} (h : Magnitude.Fits significand shift)
    (hden : 0 < den) :
    nearestRank (significand * 2 ^ shift * den) den = shift * 2 ^ 52 + significand := by
  have hscale : significand * 2 ^ shift * den = significand * (den * 2 ^ shift) := by ring
  simp only [nearestRank, Nat.mul_div_cancel _ hden, log2_of_fits h, Nat.pow_eq]
  rw [hscale, roundHalfEven_mul _ (by positivity)]

/-- **A magnitude is rounded to itself**, however it is written as a quotient. -/
theorem nearestRank_units (m : Magnitude) {den : ℕ} (hden : 0 < den) :
    nearestRank (m.units * den) den = m.rank := by
  rw [m.units_eq, nearestRank_of_fits m.fits hden, m.rank_eq]

theorem Binary64.ofUnits_units (negative : Bool) (m : Magnitude) {den : ℕ} (hden : 0 < den) :
    ofUnits negative (m.units * den) den = .finite negative m := by
  have hrank := nearestRank_units m hden
  have hlt : nearestRank (m.units * den) den < infinityRank := hrank ▸ m.rank_lt
  rw [ofUnits, dif_pos hlt]
  simp only [hrank]

/-! ### Exact values -/

/-- The exact value of a magnitude. -/
def Magnitude.toRat (m : Magnitude) : ℚ := m.units / unitsPerOne

/-- The exact value of a decimal. -/
def Decimal.toRat (d : Decimal) : ℚ := d.digits * 10 ^ d.exponent

theorem Magnitude.toRat_eq_natCast_iff {m : Magnitude} {n : ℕ} :
    m.toRat = n ↔ m.units = n * unitsPerOne := by
  have hpos : (unitsPerOne : ℚ) ≠ 0 := by exact_mod_cast unitsPerOne_pos.ne'
  rw [toRat, div_eq_iff hpos, ← Nat.cast_mul, Nat.cast_inj]

namespace Decimal

/-- The value of a decimal is the fraction that is rounded. -/
theorem toRat_eq (d : Decimal) : d.toRat = d.numerator / d.denominator := by
  rcases d with ⟨digits, exponent⟩
  simp only [toRat, numerator, denominator, Nat.pow_eq]
  cases exponent with
  | ofNat n => simp
  | negSucc n =>
    have htop : (Int.negSucc n).toNat = 0 := rfl
    have hbottom : (-Int.negSucc n).toNat = n + 1 := rfl
    rw [htop, hbottom, zpow_negSucc, div_eq_mul_inv]
    push_cast
    ring

theorem rank_congr {d e : Decimal} (h : d.toRat = e.toRat) : d.rank = e.rank := by
  have hd : (d.denominator : ℚ) ≠ 0 := by exact_mod_cast d.denominator_pos.ne'
  have he : (e.denominator : ℚ) ≠ 0 := by exact_mod_cast e.denominator_pos.ne'
  rw [toRat_eq, toRat_eq, div_eq_div_iff hd he] at h
  have hcross : d.numerator * e.denominator = e.numerator * d.denominator := by exact_mod_cast h
  refine nearestRank_congr d.denominator_pos e.denominator_pos ?_
  rw [Nat.mul_right_comm, hcross, Nat.mul_right_comm]

/-- A decimal of the rank of a magnitude is rounded to it. -/
theorem toBinary64_of_rank_eq {d : Decimal} {m : Magnitude} (h : d.rank = m.rank) :
    d.toBinary64 = .finite false m := by
  rw [toBinary64_of_rank_lt (h ▸ m.rank_lt)]
  simp only [h]

/-- A decimal that is a magnitude is rounded to it. -/
theorem toBinary64_of_toRat_eq {d : Decimal} {m : Magnitude} (h : d.toRat = m.toRat) :
    d.toBinary64 = .finite false m := by
  have hd : (d.denominator : ℚ) ≠ 0 := by exact_mod_cast d.denominator_pos.ne'
  have hone : (Magnitude.unitsPerOne : ℚ) ≠ 0 := by exact_mod_cast Magnitude.unitsPerOne_pos.ne'
  rw [toRat_eq, Magnitude.toRat, div_eq_div_iff hd hone] at h
  have hcross : d.numerator * Magnitude.unitsPerOne = m.units * d.denominator := by exact_mod_cast h
  rw [toBinary64, hcross]
  exact Binary64.ofUnits_units false m d.denominator_pos

end Decimal

end SumProduct
