/-!
# Binary64 numbers

The numbers of IEEE 754 binary64, as the standard's set of values: a sign and a finite
magnitude, two infinities and not-a-number. The payload and the sign of a not-a-number
are not kept, as no operation here shows them. A sum or a product is the exact result,
rounded once to the nearest number.

The finite magnitudes are ordered, and a magnitude *is* its place in that order, its
`rank`: `0` for zero, `1` for the least subnormal, and so on up to the last rank before
`infinityRank`. The standard encodes numbers so that the encoding of a magnitude is its
rank. All magnitudes are whole multiples of the least subnormal `2 ^ -1074`, and `units`
says how many times.

Powers are written with `Nat.pow`, so that they mean the same whatever else is imported.
-/

namespace SumProduct

/-- The rank that the next magnitude would have if there were one more binade: the
encoding of infinity. -/
def infinityRank : Nat := 2047 * Nat.pow 2 52

/-- A finite binary64 magnitude, by its place in the order of all of them. -/
structure Magnitude where
  /-- The number of smaller magnitudes. -/
  rank : Nat
  rank_lt : rank < infinityRank
  deriving DecidableEq

namespace Magnitude

/-- The magnitude zero. -/
def zero : Magnitude := ⟨0, by decide⟩

/-- The integer that is scaled: below `2 ^ 52` for the subnormals, and from `2 ^ 52` to
`2 ^ 53` for the others. -/
def significand (m : Magnitude) : Nat :=
  if m.rank < Nat.pow 2 52 then m.rank else Nat.pow 2 52 + m.rank % Nat.pow 2 52

/-- The power of two that scales the significand, counted from `2 ^ -1074`. -/
def shift (m : Magnitude) : Nat := m.rank / Nat.pow 2 52 - 1

/-- The magnitude as a multiple of `2 ^ -1074`. -/
def units (m : Magnitude) : Nat := m.significand * Nat.pow 2 m.shift

/-- How many units make one. -/
def unitsPerOne : Nat := Nat.pow 2 1074

end Magnitude

/-- A binary64 number. -/
inductive Binary64
  /-- Not a number. -/
  | nan
  /-- An infinity, with its sign. -/
  | infinite (negative : Bool)
  /-- A finite number, zeros with a sign included. -/
  | finite (negative : Bool) (magnitude : Magnitude)
  deriving DecidableEq

namespace Binary64

/-- Equality as the standard has it: not-a-number equals nothing, and the two zeros are
equal. -/
def equals : Binary64 → Binary64 → Bool
  | .infinite s, .infinite t => s == t
  | .finite s a, .finite t b => a.rank == b.rank && (s == t || a.rank == 0)
  | _, _ => false

/-- The 64 bits of the interchange encoding. Not-a-number has many encodings and gets
none. -/
def encoding? : Binary64 → Option Nat
  | .nan => none
  | .infinite s => some (s.toNat * Nat.pow 2 63 + infinityRank)
  | .finite s m => some (s.toNat * Nat.pow 2 63 + m.rank)

/-! ### Equality -/

/-- Only not-a-number differs from itself. -/
theorem equals_self (x : Binary64) : x.equals x = true ↔ x ≠ .nan := by
  cases x <;> simp [equals]

end Binary64

/-!
### Rounding

The binary64 number nearest to a quotient of natural numbers, which is how every sum,
product and decimal text arrives at its value: first exactly, then rounded once. Halfway
between two magnitudes the one with the even significand is taken, and from
`2 ^ 1024 - 2 ^ 970` on the result is infinite.

In the binade of the quotient the magnitudes are evenly spaced, `2 ^ shift` units apart,
so the quotient is divided by the spacing and rounded to an integer. Ranks count the
magnitudes without regard to binades, and therefore a significand that rounds up to
`2 ^ 53` lands on the first rank of the next binade, and a result beyond the last binade
on `infinityRank`.
-/

/-- `num / den` rounded to the nearest integer, a half to the even one. -/
def roundHalfEven (num den : Nat) : Nat :=
  let floor := num / den
  let twice := 2 * (num % den)
  if twice < den then floor
  else if den < twice then floor + 1
  else floor + floor % 2

/-- The rank of the magnitude nearest to `num / den` units, with no end to the ranks. -/
def nearestRank (num den : Nat) : Nat :=
  let shift := Nat.log2 (num / den) - 52
  shift * Nat.pow 2 52 + roundHalfEven num (den * Nat.pow 2 shift)

/-- The binary64 number nearest to `num / den` units, with a sign. -/
def Binary64.ofUnits (negative : Bool) (num den : Nat) : Binary64 :=
  let rank := nearestRank num den
  if h : rank < infinityRank then .finite negative ⟨rank, h⟩ else .infinite negative

/-! ### Integers round to themselves -/

theorem roundHalfEven_one (n : Nat) : roundHalfEven n 1 = n := by
  simp [roundHalfEven, Nat.mod_one]

theorem roundHalfEven_mul {d : Nat} (n : Nat) (h : 0 < d) : roundHalfEven (n * d) d = n := by
  simp [roundHalfEven, Nat.mul_div_cancel n h, h]

/-- A rounded quotient is one of the two integers around it. -/
theorem roundHalfEven_eq_or (num den : Nat) :
    roundHalfEven num den = num / den ∨ roundHalfEven num den = num / den + 1 := by
  simp only [roundHalfEven]
  split
  · exact .inl rfl
  · split
    · exact .inr rfl
    · rcases Nat.mod_two_eq_zero_or_one (num / den) with h | h <;> simp [h]

/-- Below `2 ^ 53` units every integer is a magnitude, and its rank is itself. -/
theorem nearestRank_of_lt {n : Nat} (h : n < Nat.pow 2 53) : nearestRank n 1 = n := by
  have hs : Nat.log2 n - 52 = 0 := by
    by_cases h0 : n = 0
    · subst h0; decide
    · have := (Nat.log2_lt h0).2 h; omega
  simp [nearestRank, hs, roundHalfEven_one]

/-!
### Sums and products

An infinity added to its opposite and an infinity times zero are not a number. An exact sum
of zero is negative only if both operands are, and a product has the sign of its factors
together.
-/

namespace Binary64

/-- The rounded sum. -/
def add : Binary64 → Binary64 → Binary64
  | .nan, _ => .nan
  | _, .nan => .nan
  | .infinite s, .infinite t => if s = t then .infinite s else .nan
  | .infinite s, .finite _ _ => .infinite s
  | .finite _ _, .infinite t => .infinite t
  | .finite s a, .finite t b =>
    if s = t then ofUnits s (a.units + b.units) 1
    else if b.units < a.units then ofUnits s (a.units - b.units) 1
    else if a.units < b.units then ofUnits t (b.units - a.units) 1
    else .finite false Magnitude.zero

/-- The rounded product. -/
def mul : Binary64 → Binary64 → Binary64
  | .nan, _ => .nan
  | _, .nan => .nan
  | .infinite s, .infinite t => .infinite (s ^^ t)
  | .infinite s, .finite t b => if b.rank = 0 then .nan else .infinite (s ^^ t)
  | .finite s a, .infinite t => if a.rank = 0 then .nan else .infinite (s ^^ t)
  | .finite s a, .finite t b => ofUnits (s ^^ t) (a.units * b.units) Magnitude.unitsPerOne

instance : Add Binary64 := ⟨add⟩

instance : Mul Binary64 := ⟨mul⟩

/-! ### Finite operands -/

theorem finite_add_finite (s : Bool) (a b : Magnitude) :
    finite s a + finite s b = ofUnits s (a.units + b.units) 1 := by
  show add (finite s a) (finite s b) = _
  rw [add, if_pos rfl]

theorem finite_mul_finite (s t : Bool) (a b : Magnitude) :
    finite s a * finite t b = ofUnits (s ^^ t) (a.units * b.units) Magnitude.unitsPerOne := by
  show mul (finite s a) (finite t b) = _
  rw [mul]

/-! ### Infinite and missing operands -/

@[simp] theorem nan_add (x : Binary64) : nan + x = nan := rfl

@[simp] theorem add_nan (x : Binary64) : x + nan = nan := by cases x <;> rfl

@[simp] theorem nan_mul (x : Binary64) : nan * x = nan := rfl

@[simp] theorem mul_nan (x : Binary64) : x * nan = nan := by cases x <;> rfl

@[simp] theorem infinite_add_infinite (s : Bool) : infinite s + infinite s = infinite s :=
  if_pos rfl

@[simp] theorem infinite_add_finite (s t : Bool) (b : Magnitude) :
    infinite s + finite t b = infinite s := rfl

@[simp] theorem finite_add_infinite (s t : Bool) (a : Magnitude) :
    finite s a + infinite t = infinite t := rfl

@[simp] theorem infinite_mul_infinite (s t : Bool) :
    infinite s * infinite t = infinite (s ^^ t) := rfl

theorem infinite_mul_finite (s t : Bool) (b : Magnitude) :
    infinite s * finite t b = if b.rank = 0 then nan else infinite (s ^^ t) := rfl

theorem finite_mul_infinite (s t : Bool) (a : Magnitude) :
    finite s a * infinite t = if a.rank = 0 then nan else infinite (s ^^ t) := rfl

/-- Zero times infinity is no number. -/
example : finite false Magnitude.zero * infinite false = nan := rfl

end Binary64

end SumProduct
