import Mathlib.Algebra.Order.Field.Basic
import Mathlib.Algebra.Order.Group.Abs
import Mathlib.Tactic.Linarith
import SumProduct.Proofs.Binary64.ExactRounding

/-!
# Rounding is to the nearest

What a quotient is rounded to is the nearest of all finite numbers, and if two are equally near it
is the one with the even significand (`Magnitude.isNearest_of_rank_eq`). Beyond the magnitudes is
what is nearer to `2 ^ 1024` than to the last of them, or as near: from `2 ^ 1024 - 2 ^ 970` on
(`infinityRank_le_nearestRank_iff`).

The quotient is rounded on a grid, whose step is the distance of the magnitudes around it. A
magnitude is on the grid, or it is below the whole binade of the quotient, and then the first
magnitude of this binade is nearer (`Magnitude.onGrid_or_lt`). So it is enough to look at integers,
where the nearest one is at most a half away (`IsRoundedTo.le_abs_sub`).
-/

namespace SumProduct

/-! ### The nearest integer -/

/-- The integer is at most a half away, and even if it is as much. -/
structure IsRoundedTo (x : ℚ) (n : ℕ) : Prop where
  /-- The distance is at most a half. -/
  le_half : |(n : ℚ) - x| ≤ 1 / 2
  /-- Halfway between two integers it is the even one. -/
  even : |(n : ℚ) - x| = 1 / 2 → Even n

/-- Different integers are one apart at least. -/
theorem one_le_abs_sub {n k : ℕ} (h : k ≠ n) : (1 : ℚ) ≤ |(k : ℚ) - n| := by
  have hint : (1 : ℤ) ≤ |(k : ℤ) - n| := by
    apply Int.one_le_abs
    omega
  exact_mod_cast hint

namespace IsRoundedTo

variable {x : ℚ} {n k : ℕ}

theorem of_lt_half (h : |(n : ℚ) - x| < 1 / 2) : IsRoundedTo x n :=
  ⟨h.le, fun hhalf => absurd hhalf h.ne⟩

/-- Less than a half is rounded down. -/
theorem down {rest : ℚ} (hnonneg : 0 ≤ rest) (hlt : rest < 1 / 2) : IsRoundedTo (n + rest) n := by
  apply of_lt_half
  rw [sub_add_cancel_left, abs_neg, abs_of_nonneg hnonneg]
  exact hlt

/-- More than a half is rounded up. -/
theorem up {rest : ℚ} (hlt : 1 / 2 < rest) (hone : rest < 1) : IsRoundedTo (n + rest) (n + 1) := by
  apply of_lt_half
  rw [Nat.cast_add_one, add_sub_add_left_eq_sub, abs_of_pos (by linarith)]
  linarith

/-- A half is rounded to the even side. -/
theorem half (n : ℕ) : IsRoundedTo (n + 1 / 2) (n + n % 2) := by
  rcases Nat.even_or_odd n with heven | hodd
  · rw [Nat.even_iff.1 heven, Nat.add_zero]
    constructor
    · rw [sub_add_cancel_left, abs_neg, abs_of_pos one_half_pos]
    · exact fun _ => heven
  · rw [Nat.odd_iff.1 hodd]
    constructor
    · rw [Nat.cast_add_one, add_sub_add_left_eq_sub, sub_half, abs_of_pos one_half_pos]
    · exact fun _ => hodd.add_one

theorem half_le_abs_sub (h : IsRoundedTo x n) (hk : k ≠ n) : 1 / 2 ≤ |(k : ℚ) - x| := by
  have hone := one_le_abs_sub hk
  have htriangle := abs_sub_le (k : ℚ) x n
  have hhalf := h.le_half
  rw [abs_sub_comm (n : ℚ) x] at hhalf
  linarith

/-- No integer is nearer. -/
theorem le_abs_sub (h : IsRoundedTo x n) (k : ℕ) : |(n : ℚ) - x| ≤ |(k : ℚ) - x| := by
  by_cases hk : k = n
  · rw [hk]
  · exact h.le_half.trans (h.half_le_abs_sub hk)

/-- If another integer is as near, this one is even. -/
theorem even_of_abs_sub_eq (h : IsRoundedTo x n) (hk : k ≠ n)
    (heq : |(k : ℚ) - x| = |(n : ℚ) - x|) : Even n :=
  h.even (le_antisymm h.le_half (heq ▸ h.half_le_abs_sub hk))

theorem le_of_lt (h : IsRoundedTo x n) (hx : x < k) : n ≤ k := by
  have hle := (abs_le.1 h.le_half).2
  have hlt : (n : ℚ) < (k + 1 : ℕ) := by
    push_cast
    linarith
  exact Nat.le_of_lt_succ (Nat.cast_lt.1 hlt)

theorem le_of_le (h : IsRoundedTo x n) (hx : k ≤ x) : k ≤ n := by
  have hle := (abs_le.1 h.le_half).1
  have hlt : (k : ℚ) < (n + 1 : ℕ) := by
    push_cast
    linarith
  exact Nat.le_of_lt_succ (Nat.cast_lt.1 hlt)

/-- What is rounded to an even integer from below is a half below it at most. -/
theorem eq_iff_sub_half_le (h : IsRoundedTo x n) (hn : n ≤ k) (hk : Even k) :
    n = k ↔ k - 1 / 2 ≤ x := by
  constructor
  · rintro rfl
    linarith [(abs_le.1 h.le_half).2]
  · intro hx
    by_contra hne
    have hle : (n : ℚ) + 1 ≤ k := by exact_mod_cast (by omega : n + 1 ≤ k)
    have hhalf := (abs_le.1 h.le_half).1
    -- only the middle between `k - 1` and `k` is left, and `k - 1` is odd
    have hn : (n : ℚ) = k - 1 := by linarith
    have heven := h.even (by
      rw [abs_sub_comm, abs_of_nonneg (by linarith)]
      linarith)
    have hsucc : k = n + 1 := by
      have hcast : (k : ℚ) = n + 1 := by linarith
      exact_mod_cast hcast
    rw [hsucc, Nat.even_add_one] at hk
    exact hk heven

end IsRoundedTo

/-- A quotient of natural numbers is its integer part and a rest. -/
theorem cast_div_eq (num : ℕ) {den : ℕ} (hden : 0 < den) :
    (num : ℚ) / den = (num / den : ℕ) + (num % den : ℕ) / den := by
  have hpos : (0 : ℚ) < den := by exact_mod_cast hden
  have hsplit : (num : ℚ) = den * (num / den : ℕ) + (num % den : ℕ) := by
    exact_mod_cast (Nat.div_add_mod num den).symm
  rw [div_eq_iff hpos.ne', add_mul, div_mul_cancel₀ _ hpos.ne', mul_comm]
  exact hsplit

/-- **The rounded quotient** is the nearest integer, and the even one of two. -/
theorem isRoundedTo_roundHalfEven (num : ℕ) {den : ℕ} (hden : 0 < den) :
    IsRoundedTo ((num : ℚ) / den) (roundHalfEven num den) := by
  have hpos : (0 : ℚ) < den := by exact_mod_cast hden
  rw [cast_div_eq num hden]
  simp only [roundHalfEven]
  split
  · next hbelow =>
    apply IsRoundedTo.down
    · positivity
    · rw [div_lt_div_iff₀ hpos two_pos]
      exact_mod_cast (by omega : num % den * 2 < 1 * den)
  · split
    · next habove =>
      apply IsRoundedTo.up
      · rw [div_lt_div_iff₀ two_pos hpos]
        exact_mod_cast (by omega : 1 * den < num % den * 2)
      · rw [div_lt_one hpos]
        exact_mod_cast Nat.mod_lt num hden
    · have hhalf : ((num % den : ℕ) : ℚ) / den = 1 / 2 := by
        rw [div_eq_div_iff hpos.ne' two_ne_zero]
        exact_mod_cast (by omega : num % den * 2 = 1 * den)
      rw [hhalf]
      exact IsRoundedTo.half _

/-! ### The binade of a quotient -/

/-- The step of the grid that a quotient is rounded on, as a power of two: the quotient has 53
binary places before it at most, and all of them if the step is not the least one. -/
structure IsStep (x : ℚ) (shift : ℕ) : Prop where
  /-- There are 53 places at most. -/
  lt : x < 2 ^ 53 * 2 ^ shift
  /-- There are no less, unless the step is the least one. -/
  le : shift = 0 ∨ (2 : ℚ) ^ 52 * 2 ^ shift ≤ x

/-- The step that is chosen for a quotient. -/
theorem isStep_log2 (num : ℕ) {den : ℕ} (hden : 0 < den) :
    IsStep ((num : ℚ) / den) (Nat.log2 (num / den) - 52) := by
  have hpos : (0 : ℚ) < den := by exact_mod_cast hden
  constructor
  · rw [div_lt_iff₀ hpos]
    have hlt : num / den < 2 ^ 53 * 2 ^ (Nat.log2 (num / den) - 52) := by
      calc num / den < 2 ^ (Nat.log2 (num / den) + 1) := Nat.lt_log2_self
        _ ≤ 2 ^ (53 + (Nat.log2 (num / den) - 52)) :=
            Nat.pow_le_pow_right two_pos (by omega)
        _ = 2 ^ 53 * 2 ^ (Nat.log2 (num / den) - 52) := pow_add _ _ _
    exact_mod_cast (Nat.div_lt_iff_lt_mul hden).1 hlt
  · rcases Nat.eq_zero_or_pos (Nat.log2 (num / den) - 52) with hzero | hshift
    · exact .inl hzero
    · right
      rw [le_div_iff₀ hpos]
      have hne : num / den ≠ 0 := by
        intro hdiv
        rw [hdiv] at hshift
        exact absurd hshift (by decide)
      have hle : 2 ^ 52 * 2 ^ (Nat.log2 (num / den) - 52) ≤ num / den := by
        rw [← pow_add, Nat.add_sub_cancel' (by omega)]
        exact Nat.log2_self_le hne
      exact_mod_cast (Nat.le_div_iff_mul_le hden).1 hle

/-- The steps of the grid that are passed before the quotient, rounded. -/
structure IsRoundedOn (x : ℚ) (shift k : ℕ) : Prop where
  /-- The step belongs to the quotient. -/
  step : IsStep x shift
  /-- The number of steps is rounded. -/
  rounded : IsRoundedTo (x / 2 ^ shift) k

/-- **What the nearest rank is**: so many steps of the grid of the quotient, counted from the rank
that the first step of the grid has. -/
theorem nearestRank_spec (num : ℕ) {den : ℕ} (hden : 0 < den) :
    ∃ shift k, IsRoundedOn ((num : ℚ) / den) shift k ∧
      nearestRank num den = shift * 2 ^ 52 + k := by
  refine ⟨Nat.log2 (num / den) - 52, _, ⟨isStep_log2 num hden, ?_⟩, rfl⟩
  have hrounded := isRoundedTo_roundHalfEven num
    (show 0 < den * 2 ^ (Nat.log2 (num / den) - 52) from Nat.mul_pos hden (Nat.two_pow_pos _))
  rw [Nat.cast_mul, Nat.cast_pow, ← div_div] at hrounded
  exact hrounded

/-- Distances on the grid are counted in steps. -/
theorem abs_grid_sub (x : ℚ) (shift j : ℕ) :
    |((j * 2 ^ shift : ℕ) : ℚ) - x| = |(j : ℚ) - x / 2 ^ shift| * 2 ^ shift := by
  have hpos : (0 : ℚ) < 2 ^ shift := by positivity
  calc |((j * 2 ^ shift : ℕ) : ℚ) - x| = |((j : ℚ) - x / 2 ^ shift) * 2 ^ shift| := by
        rw [sub_mul, div_mul_cancel₀ _ hpos.ne', Nat.cast_mul, Nat.cast_pow, Nat.cast_two]
    _ = |(j : ℚ) - x / 2 ^ shift| * 2 ^ shift := by rw [abs_mul, abs_of_pos hpos]

namespace IsRoundedOn

variable {x : ℚ} {shift k : ℕ}

theorem le (h : IsRoundedOn x shift k) : k ≤ 2 ^ 53 := by
  apply h.rounded.le_of_lt
  rw [div_lt_iff₀ (by positivity)]
  exact_mod_cast h.step.lt

theorem ge (h : IsRoundedOn x shift k) : shift = 0 ∨ 2 ^ 52 ≤ k := by
  apply h.step.le.imp_right
  intro hle
  apply h.rounded.le_of_le
  rw [le_div_iff₀ (by positivity)]
  exact_mod_cast hle

end IsRoundedOn

/-! ### The nearest magnitude -/

namespace Magnitude

/-- A rank has one significand and one shift. -/
theorem Fits.unique {a b s t : ℕ} (h : Fits a s) (h' : Fits b t)
    (hrank : s * 2 ^ 52 + a = t * 2 ^ 52 + b) : a = b ∧ s = t := by
  have hlt := h.lt
  have hlt' := h'.lt
  rcases h.normal with hs | hs <;> rcases h'.normal with ht | ht <;> omega

/-- The magnitude of the nearest rank is at the rounded number of steps, and its significand is even
if that is. -/
theorem units_of_isRoundedOn {m : Magnitude} {x : ℚ} {shift k : ℕ} (h : IsRoundedOn x shift k)
    (hrank : m.rank = shift * 2 ^ 52 + k) :
    m.units = k * 2 ^ shift ∧ (Even k → Even m.significand) := by
  rw [m.rank_eq] at hrank
  rcases Nat.lt_or_eq_of_le h.le with hlt | rfl
  · obtain ⟨hsignificand, hshift⟩ := m.fits.unique ⟨hlt, h.ge⟩ hrank
    rw [units_eq, hsignificand, hshift]
    exact ⟨rfl, id⟩
  · -- the first magnitude of the next binade
    have hnext : Fits (2 ^ 52) (shift + 1) :=
      ⟨Nat.pow_lt_pow_right (by omega) (by omega), .inr (Nat.le_refl _)⟩
    have hcarry : shift * 2 ^ 52 + 2 ^ 53 = (shift + 1) * 2 ^ 52 + 2 ^ 52 := by ring
    obtain ⟨hsignificand, hshift⟩ := m.fits.unique hnext (hrank.trans hcarry)
    rw [units_eq, hsignificand, hshift]
    refine ⟨?_, fun _ => even_two.pow_of_ne_zero (by omega)⟩
    rw [← pow_add, ← pow_add]
    congr 1
    omega

/-- A magnitude is on a grid, or it is below the binade that the grid is for. -/
theorem onGrid_or_lt (n : Magnitude) (shift : ℕ) :
    (∃ j, n.units = j * 2 ^ shift) ∨ 0 < shift ∧ n.units < 2 ^ 52 * 2 ^ shift := by
  rcases Nat.lt_or_ge n.shift shift with hlt | hge
  · refine .inr ⟨by omega, ?_⟩
    calc n.units < 2 ^ 53 * 2 ^ n.shift :=
          Nat.mul_lt_mul_of_pos_right n.fits.lt (Nat.two_pow_pos _)
      _ = 2 ^ 52 * 2 ^ (n.shift + 1) := by ring
      _ ≤ 2 ^ 52 * 2 ^ shift := Nat.mul_le_mul_left _ (Nat.pow_le_pow_right two_pos hlt)
  · refine .inl ⟨n.significand * 2 ^ (n.shift - shift), ?_⟩
    rw [units_eq, Nat.mul_assoc, ← pow_add, Nat.sub_add_cancel hge]

/-- **No magnitude is nearer** than the one of the nearest rank, and if another one is as near, this
one has an even significand. -/
theorem le_abs_units_sub {m : Magnitude} {num den : ℕ} (hden : 0 < den)
    (hrank : m.rank = nearestRank num den) (n : Magnitude) :
    |(m.units : ℚ) - num / den| ≤ |(n.units : ℚ) - num / den| ∧
      (n.units ≠ m.units → |(n.units : ℚ) - num / den| = |(m.units : ℚ) - num / den| →
        Even m.significand) := by
  obtain ⟨shift, k, hon, hnearest⟩ := nearestRank_spec num hden
  obtain ⟨hunits, heven⟩ := units_of_isRoundedOn hon (hrank.trans hnearest)
  have hpos : (0 : ℚ) < 2 ^ shift := by positivity
  have hgrid (j : ℕ) : |(m.units : ℚ) - num / den| ≤ |((j * 2 ^ shift : ℕ) : ℚ) - num / den| := by
    rw [hunits, abs_grid_sub, abs_grid_sub]
    exact mul_le_mul_of_nonneg_right (hon.rounded.le_abs_sub j) hpos.le
  rcases n.onGrid_or_lt shift with ⟨j, hj⟩ | ⟨hshift, hlt⟩
  · rw [hj]
    refine ⟨hgrid j, fun hne heq => heven ?_⟩
    rw [hunits, abs_grid_sub, abs_grid_sub,
      mul_left_inj' hpos.ne'] at heq
    refine hon.rounded.even_of_abs_sub_eq ?_ heq
    rintro rfl
    exact hne hunits.symm
  · -- the first magnitude of the binade is between the other one and the quotient
    have hfirst := hgrid (2 ^ 52)
    have hle : ((2 ^ 52 * 2 ^ shift : ℕ) : ℚ) ≤ num / den := by
      exact_mod_cast hon.step.le.resolve_left (by omega)
    have hlt' : (n.units : ℚ) < (2 ^ 52 * 2 ^ shift : ℕ) := Nat.cast_lt.2 hlt
    generalize ((2 ^ 52 * 2 ^ shift : ℕ) : ℚ) = first at hfirst hle hlt'
    rw [abs_of_nonpos (sub_nonpos.2 hle)] at hfirst
    rw [abs_of_nonpos (sub_nonpos.2 (hlt'.le.trans hle))]
    constructor
    · linarith
    · intro _ heq
      linarith

end Magnitude

/-! ### Beyond the magnitudes -/

/-- Quotients that are rounded to the rank of infinity, or beyond: those that are not less than the
middle between the last magnitude and the next power of two, in units. -/
theorem infinityRank_le_nearestRank_units (num : ℕ) {den : ℕ} (hden : 0 < den) :
    infinityRank ≤ nearestRank num den ↔ (2 ^ 54 - 1) * (2 : ℚ) ^ 2044 ≤ num / den := by
  obtain ⟨shift, k, hon, hnearest⟩ := nearestRank_spec num hden
  have hk := hon.le
  have hpos : (0 : ℚ) < 2 ^ 2044 := by positivity
  rw [hnearest, show infinityRank = 2047 * 2 ^ 52 from rfl]
  rcases Nat.lt_trichotomy shift 2045 with hshift | rfl | hshift
  · -- below the last binade
    apply iff_of_false
    · omega
    · rw [not_le]
      calc (num : ℚ) / den < 2 ^ 53 * 2 ^ shift := hon.step.lt
        _ ≤ 2 ^ 53 * 2 ^ 2044 :=
            mul_le_mul_of_nonneg_left (pow_le_pow_right₀ one_le_two (by omega)) (by positivity)
        _ ≤ (2 ^ 54 - 1) * 2 ^ 2044 := mul_le_mul_of_nonneg_right (by norm_num) hpos.le
  · -- in the last binade, where the rank of infinity is one step behind the last one
    have hscale : ((2 ^ 53 : ℕ) - 1 / 2 : ℚ) * 2 ^ 2045 = (2 ^ 54 - 1) * 2 ^ 2044 := by
      rw [pow_succ (2 : ℚ) 2044]
      generalize (2 : ℚ) ^ 2044 = scale
      push_cast
      ring
    rw [← hscale, ← le_div_iff₀ (by positivity),
      ← hon.rounded.eq_iff_sub_half_le hk (even_two.pow_of_ne_zero (by omega))]
    omega
  · -- beyond it
    apply iff_of_true
    · have hge := hon.ge
      omega
    · calc (2 ^ 54 - 1 : ℚ) * 2 ^ 2044 ≤ 2 ^ 54 * 2 ^ 2044 :=
            mul_le_mul_of_nonneg_right (by norm_num) hpos.le
        _ = 2 ^ 52 * 2 ^ 2046 := by rw [← pow_add, ← pow_add]
        _ ≤ 2 ^ 52 * 2 ^ shift :=
            mul_le_mul_of_nonneg_left (pow_le_pow_right₀ one_le_two (by omega)) (by positivity)
        _ ≤ num / den := hon.step.le.resolve_left (by omega)

/-- **What is rounded to infinity**: from `2 ^ 1024 - 2 ^ 970` on. -/
theorem infinityRank_le_nearestRank_iff (num : ℕ) {den : ℕ} (hden : 0 < den) :
    infinityRank ≤ nearestRank (num * Magnitude.unitsPerOne) den ↔
      (2 : ℚ) ^ 1024 - 2 ^ 970 ≤ num / den := by
  have hscale : (2 ^ 54 - 1) * (2 : ℚ) ^ 2044 = (2 ^ 1024 - 2 ^ 970) * 2 ^ 1074 := by
    rw [show 1024 = 54 + 970 from rfl, show 2044 = 970 + 1074 from rfl, pow_add _ 54, pow_add _ 970]
    generalize (2 : ℚ) ^ 970 = a
    generalize (2 : ℚ) ^ 1074 = b
    ring
  rw [infinityRank_le_nearestRank_units _ hden, hscale, Nat.cast_mul, Magnitude.unitsPerOne_eq,
    Nat.cast_pow, Nat.cast_two, mul_div_right_comm, mul_le_mul_iff_left₀ (by positivity)]

/-! ### The nearest number -/

/-- The exact value of a finite number. -/
def Binary64.toRat? : Binary64 → Option ℚ
  | .finite negative m => some (if negative then -m.toRat else m.toRat)
  | _ => none

namespace Magnitude

/-- The magnitude is the nearest of all finite numbers, and if another one is as near, this one has
the even significand. -/
structure IsNearest (m : Magnitude) (q : ℚ) : Prop where
  /-- No number is nearer. -/
  le_abs_sub : ∀ (y : Binary64) v, y.toRat? = some v → |m.toRat - q| ≤ |v - q|
  /-- If a different one is as near, the significand is even. -/
  even : ∀ (y : Binary64) v, y.toRat? = some v → v ≠ m.toRat → |v - q| = |m.toRat - q| →
    Even m.significand

theorem abs_units_sub (m : Magnitude) (q : ℚ) :
    |(m.units : ℚ) - q * unitsPerOne| = |m.toRat - q| * unitsPerOne := by
  have hpos : (0 : ℚ) < unitsPerOne := Nat.cast_pos.2 unitsPerOne_pos
  calc |(m.units : ℚ) - q * unitsPerOne| = |(m.toRat - q) * unitsPerOne| := by
        rw [sub_mul, toRat, div_mul_cancel₀ _ hpos.ne']
    _ = |m.toRat - q| * unitsPerOne := by rw [abs_mul, abs_of_pos hpos]

theorem toRat_nonneg (m : Magnitude) : 0 ≤ m.toRat :=
  div_nonneg (Nat.cast_nonneg _) (Nat.cast_nonneg _)

theorem toRat_zero : zero.toRat = 0 := by
  rw [toRat, (units_eq_zero zero).2 rfl, Nat.cast_zero, zero_div]

section Nearest

variable {m : Magnitude} {num den : ℕ}

theorem le_abs_toRat_sub (hden : 0 < den) (hrank : m.rank = nearestRank (num * unitsPerOne) den)
    (n : Magnitude) :
    |m.toRat - num / den| ≤ |n.toRat - num / den| ∧
      (n.toRat ≠ m.toRat → |n.toRat - num / den| = |m.toRat - num / den| → Even m.significand) := by
  have hpos : (0 : ℚ) < unitsPerOne := Nat.cast_pos.2 unitsPerOne_pos
  obtain ⟨hle, heven⟩ := le_abs_units_sub hden hrank n
  rw [Nat.cast_mul, mul_div_right_comm, abs_units_sub, abs_units_sub] at hle heven
  refine ⟨le_of_mul_le_mul_right hle hpos, fun hne heq => heven ?_ (by rw [heq])⟩
  intro hunits
  exact hne (by rw [toRat, toRat, hunits])

/-- **Rounding is to the nearest** of all finite numbers, and to the even one of two. -/
theorem isNearest_of_rank_eq (hden : 0 < den)
    (hrank : m.rank = nearestRank (num * unitsPerOne) den) : m.IsNearest (num / den) := by
  have hq : (0 : ℚ) ≤ num / den := by positivity
  have hnearest := le_abs_toRat_sub hden hrank
  generalize (num : ℚ) / den = q at hq hnearest
  -- a negative number is farther away than zero, by its magnitude
  have hneg (n : Magnitude) : |-n.toRat - q| = n.toRat + q := by
    rw [← neg_add', abs_neg, abs_of_nonneg (add_nonneg n.toRat_nonneg hq)]
  have hzero : |m.toRat - q| ≤ q := by
    have hle := (hnearest zero).1
    rwa [toRat_zero, zero_sub, abs_neg, abs_of_nonneg hq] at hle
  constructor
  · rintro (_ | _ | ⟨_ | _, n⟩) v hy
    · nomatch hy
    · nomatch hy
    · obtain rfl : n.toRat = v := Option.some.inj hy
      exact (hnearest n).1
    · obtain rfl : -n.toRat = v := Option.some.inj hy
      rw [hneg]
      linarith [n.toRat_nonneg]
  · rintro (_ | _ | ⟨_ | _, n⟩) v hy hne heq
    · nomatch hy
    · nomatch hy
    · obtain rfl : n.toRat = v := Option.some.inj hy
      exact (hnearest n).2 hne heq
    · obtain rfl : -n.toRat = v := Option.some.inj hy
      -- only the negative zero can be as near
      have hn : n.toRat = 0 := by
        rw [hneg] at heq
        linarith [n.toRat_nonneg]
      rw [hn, neg_zero, ← hn] at hne heq
      exact (hnearest n).2 hne heq

end Nearest

end Magnitude

/-! ### Decimals -/

namespace Decimal

variable {d : Decimal}

theorem infinityRank_le_rank_iff :
    infinityRank ≤ d.rank ↔ (2 : ℚ) ^ 1024 - 2 ^ 970 ≤ d.toRat := by
  rw [toRat_eq]
  exact infinityRank_le_nearestRank_iff _ d.denominator_pos

/-- Decimals that are too large are rounded to infinity. -/
theorem toBinary64_of_ge (h : (2 : ℚ) ^ 1024 - 2 ^ 970 ≤ d.toRat) :
    d.toBinary64 = .infinite false :=
  toBinary64_of_rank_ge (infinityRank_le_rank_iff.2 h)

/-- **The other decimals are rounded to the nearest number**. -/
theorem toBinary64_of_lt (h : d.toRat < (2 : ℚ) ^ 1024 - 2 ^ 970) :
    ∃ m : Magnitude, d.toBinary64 = .finite false m ∧ m.IsNearest d.toRat := by
  have hrank : d.rank < infinityRank := by
    rw [← not_le, infinityRank_le_rank_iff, not_le]
    exact h
  refine ⟨⟨d.rank, hrank⟩, toBinary64_of_rank_lt hrank, ?_⟩
  rw [toRat_eq]
  exact Magnitude.isNearest_of_rank_eq d.denominator_pos rfl

/-- Halfway between two numbers, and off it by a digit far behind. -/
example :
    toBinary64 ⟨9007199254740993, 0⟩ = .finite false ⟨1076 * 2 ^ 52, by decide +kernel⟩ ∧
      toBinary64 ⟨90071992547409930000000000000000000000001, -25⟩ =
        .finite false ⟨1076 * 2 ^ 52 + 1, by decide +kernel⟩ := by decide +kernel

end Decimal

end SumProduct
