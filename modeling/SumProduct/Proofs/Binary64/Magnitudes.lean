import Mathlib.Algebra.Order.Ring.Nat
import Mathlib.Tactic.NormNum
import Mathlib.Tactic.Ring
import SumProduct.Binary64

/-!
# Magnitudes and the integers they scale

A magnitude is a rank, and its units are read off the rank as a significand and a shift. This is
the way back: a significand and a shift that go together (`Magnitude.Fits`) make a rank, and the
magnitude of this rank has the units that one expects (`Magnitude.exists_of_fits`). So what is to be
shown of magnitudes can be shown of significands and shifts. Two cases are all there is to a
magnitude: the shift is zero, or the significand is at least `2 ^ 52`.

The order of ranks is the order of units (`Magnitude.units_lt_units`), and the natural numbers up to
`2 ^ 53` are magnitudes (`Magnitude.exists_natural`).
-/

namespace SumProduct

namespace Magnitude

/-- A significand and a shift that go together. -/
structure Fits (significand shift : ℕ) : Prop where
  /-- The significand has 53 bits at most. -/
  lt : significand < 2 ^ 53
  /-- It has all of them if there is a shift. -/
  normal : shift = 0 ∨ 2 ^ 52 ≤ significand

variable (m : Magnitude)

/-- A rank as a multiple of `2 ^ 52` and a rest. -/
theorem fits : Fits m.significand m.shift := by
  have hmod := Nat.mod_lt m.rank (show 0 < 2 ^ 52 by norm_num)
  constructor <;> simp only [significand, shift, Nat.pow_eq] <;> split <;> omega

theorem rank_eq : m.rank = m.shift * 2 ^ 52 + m.significand := by
  simp only [significand, shift, Nat.pow_eq]
  split <;> omega

theorem units_eq : m.units = m.significand * 2 ^ m.shift := rfl

theorem unitsPerOne_eq : unitsPerOne = 2 ^ 1074 := by
  unfold unitsPerOne
  -- the power is too large to be computed in passing
  generalize 1074 = n
  rfl

theorem unitsPerOne_pos : 0 < unitsPerOne := by
  rw [unitsPerOne_eq]
  generalize 1074 = n
  exact Nat.two_pow_pos n

/-- A significand and a shift that go together belong to a magnitude, if the rank is there. -/
theorem exists_of_fits {significand shift : ℕ} (h : Fits significand shift)
    (hrank : shift * 2 ^ 52 + significand < infinityRank) :
    ∃ m : Magnitude, m.units = significand * 2 ^ shift := by
  refine ⟨⟨shift * 2 ^ 52 + significand, hrank⟩, ?_⟩
  have hlt := h.lt
  have hsignificand :
      Magnitude.significand ⟨shift * 2 ^ 52 + significand, hrank⟩ = significand := by
    simp only [Magnitude.significand, Nat.pow_eq]
    rcases h.normal with rfl | hnormal <;> split <;> omega
  have hshift : Magnitude.shift ⟨shift * 2 ^ 52 + significand, hrank⟩ = shift := by
    simp only [Magnitude.shift, Nat.pow_eq]
    rcases h.normal with rfl | hnormal <;> omega
  rw [units_eq, hsignificand, hshift]

/-! ### Order -/

/-- The order of ranks is the order of units. -/
theorem units_lt_units {m n : Magnitude} (h : m.rank < n.rank) : m.units < n.units := by
  have hm := m.fits
  have hn := n.fits
  have hmlt := hm.lt
  rw [m.rank_eq, n.rank_eq] at h
  rw [units_eq, units_eq]
  rcases Nat.lt_trichotomy m.shift n.shift with hshift | hshift | hshift
  · -- the higher shift makes up for the lower significand
    have hnormal : 2 ^ 52 ≤ n.significand := hn.normal.resolve_left (by omega)
    calc m.significand * 2 ^ m.shift < 2 ^ 53 * 2 ^ m.shift :=
          Nat.mul_lt_mul_of_pos_right hmlt (Nat.two_pow_pos _)
      _ = 2 ^ 52 * 2 ^ (m.shift + 1) := by ring
      _ ≤ 2 ^ 52 * 2 ^ n.shift :=
          Nat.mul_le_mul_left _ (Nat.pow_le_pow_right (by decide) hshift)
      _ ≤ n.significand * 2 ^ n.shift := Nat.mul_le_mul_right _ hnormal
  · rw [hshift] at h ⊢
    exact Nat.mul_lt_mul_of_pos_right (by omega) (Nat.two_pow_pos _)
  · have hnormal : 2 ^ 52 ≤ m.significand := hm.normal.resolve_left (by omega)
    have hnlt := hn.lt
    omega

theorem units_le_units {m n : Magnitude} (h : m.rank ≤ n.rank) : m.units ≤ n.units := by
  rcases Nat.lt_or_eq_of_le h with h | h
  · exact Nat.le_of_lt (units_lt_units h)
  · rcases m with ⟨rank, hm⟩
    rcases n with ⟨rank', hn⟩
    obtain rfl : rank = rank' := h
    exact Nat.le_refl _

/-- Only zero has no units. -/
theorem units_eq_zero : m.units = 0 ↔ m = zero := by
  constructor
  · intro h
    by_contra hne
    have hpos : zero.rank < m.rank := by
      rcases m with ⟨_ | rank, hrank⟩
      · exact absurd rfl hne
      · exact Nat.succ_pos rank
    have := units_lt_units hpos
    omega
  · rintro rfl
    rfl

/-! ### Natural numbers -/

/-- The natural numbers up to `2 ^ 53` are magnitudes. -/
theorem exists_natural {n : ℕ} (h : n ≤ 2 ^ 53) : ∃ m : Magnitude, m.units = n * unitsPerOne := by
  rcases Nat.eq_zero_or_pos n with rfl | hpos
  · exact ⟨zero, by rw [Nat.zero_mul]; rfl⟩
  rcases Nat.lt_or_eq_of_le h with hlt | rfl
  · -- the significand is the number with so many zeros behind it that it has 53 bits
    have hlog := (Nat.log2_lt hpos.ne').2 hlt
    obtain ⟨k, hk⟩ := Nat.exists_eq_add_of_le (show n.log2 ≤ 52 by omega)
    have hle := Nat.log2_self_le hpos.ne'
    have hlt' := Nat.lt_log2_self (n := n)
    have hfits : Fits (n * 2 ^ k) (1074 - k) := by
      constructor
      · calc n * 2 ^ k < 2 ^ (n.log2 + 1) * 2 ^ k :=
              Nat.mul_lt_mul_of_pos_right hlt' (Nat.two_pow_pos _)
          _ = 2 ^ 53 := by rw [← pow_add]; congr 1; omega
      · right
        calc 2 ^ 52 = 2 ^ n.log2 * 2 ^ k := by rw [← pow_add, hk]
          _ ≤ n * 2 ^ k := Nat.mul_le_mul_right _ hle
    obtain ⟨m, hm⟩ := exists_of_fits hfits (by
      have := hfits.lt
      simp only [infinityRank, Nat.pow_eq]
      omega)
    refine ⟨m, hm.trans ?_⟩
    rw [Nat.mul_assoc, ← pow_add, Nat.add_sub_cancel' (by omega), unitsPerOne_eq]
  · obtain ⟨m, hm⟩ := exists_of_fits (show Fits (2 ^ 52) 1075 from
      ⟨by norm_num, .inr (Nat.le_refl _)⟩) (by norm_num [infinityRank])
    refine ⟨m, hm.trans ?_⟩
    rw [unitsPerOne_eq, ← pow_add, ← pow_add]

end Magnitude

end SumProduct
