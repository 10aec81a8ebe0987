import SumProduct.Binary64

/-!
# Decimals

A non-negative decimal number, as digits times a power of ten: what a literal denotes,
and what a printed number shows. Its binary64 value is the nearest one, by the rounding
that all results go through. A number is printed with the fewest digits that read back.
-/

namespace SumProduct

/-- The number `digits * 10 ^ exponent`. -/
structure Decimal where
  /-- The digits, read as one integer. -/
  digits : Nat
  /-- The power of ten. -/
  exponent : Int
  deriving DecidableEq

namespace Decimal

/-- The numerator of the decimal as a fraction over a power of ten. -/
def numerator (d : Decimal) : Nat := d.digits * Nat.pow 10 d.exponent.toNat

/-- The power of ten under the numerator. -/
def denominator (d : Decimal) : Nat := Nat.pow 10 (-d.exponent).toNat

/-- The rank of the nearest magnitude. -/
def rank (d : Decimal) : Nat :=
  nearestRank (d.numerator * Magnitude.unitsPerOne) d.denominator

/-- The nearest binary64 number. -/
def toBinary64 (d : Decimal) : Binary64 :=
  .ofUnits false (d.numerator * Magnitude.unitsPerOne) d.denominator

theorem denominator_pos (d : Decimal) : 0 < d.denominator := Nat.pow_pos (by decide)

theorem toBinary64_of_rank_lt {d : Decimal} (h : d.rank < infinityRank) :
    d.toBinary64 = .finite false ⟨d.rank, h⟩ := dif_pos h

theorem toBinary64_of_rank_ge {d : Decimal} (h : infinityRank ≤ d.rank) :
    d.toBinary64 = .infinite false := dif_neg (Nat.not_lt.2 h)

end Decimal

/-!
### The shortest decimal that reads back

Of all decimals whose nearest magnitude is a given one, the shortest is on the coarsest
decimal grid, that is, it has the greatest exponent. On that grid at most the two
neighbours of the magnitude have to be looked at: if any point of the grid reads back, so
does one of them. If both do, the nearer is taken, and of two equally near ones the
greater.

The search goes down from a grid coarser than the magnitude and ends at the latest on
the grid of `10 ^ -1074`, which every magnitude is a point of.
-/

namespace Magnitude

/-- The numerator of the magnitude in steps of `10 ^ exponent`. -/
def gridNumerator (m : Magnitude) (exponent : Int) : Nat := m.units * Nat.pow 10 (-exponent).toNat

/-- The denominator of the magnitude in steps of `10 ^ exponent`. -/
def gridDenominator (exponent : Int) : Nat := unitsPerOne * Nat.pow 10 exponent.toNat

/-- The last point of a decimal grid that is not above the magnitude. -/
def below (m : Magnitude) (exponent : Int) : Decimal :=
  ⟨m.gridNumerator exponent / gridDenominator exponent, exponent⟩

/-- The point of a decimal grid after the one below the magnitude. -/
def above (m : Magnitude) (exponent : Int) : Decimal :=
  ⟨m.gridNumerator exponent / gridDenominator exponent + 1, exponent⟩

/-- The point below is nearer than the point above. -/
def NearerBelow (m : Magnitude) (exponent : Int) : Prop :=
  2 * (m.gridNumerator exponent % gridDenominator exponent) < gridDenominator exponent

instance (m : Magnitude) (exponent : Int) : Decidable (m.NearerBelow exponent) :=
  inferInstanceAs (Decidable (_ < _))

/-- The point of a decimal grid that stands for the magnitude, if one reads back. -/
def onGrid? (m : Magnitude) (exponent : Int) : Option Decimal :=
  if (m.below exponent).rank = m.rank then
    if (m.above exponent).rank = m.rank ∧ ¬ m.NearerBelow exponent then some (m.above exponent)
    else some (m.below exponent)
  else if (m.above exponent).rank = m.rank then some (m.above exponent)
  else none

/-- The magnitude on the finest grid, of which it is a point. -/
def exactDecimal (m : Magnitude) : Decimal := ⟨m.units * Nat.pow 5 1074, -1074⟩

/-- The search from the grid of `10 ^ (steps - 1074)` down. -/
def shortestFrom (m : Magnitude) : Nat → Decimal
  | 0 => m.exactDecimal
  | steps + 1 => (m.onGrid? ((steps : Int) + 1 - 1074)).getD (m.shortestFrom steps)

/-- The grid to start from: its step is greater than the magnitude. -/
def firstGrid (m : Magnitude) : Nat := (Nat.toDigits 10 (m.units / unitsPerOne)).length

/-- The shortest decimal whose nearest magnitude is this one. -/
def shortest (m : Magnitude) : Decimal := m.shortestFrom (m.firstGrid + 1074)

/-! ### What is found reads back -/

theorem rank_of_onGrid? {m : Magnitude} {exponent : Int} {d : Decimal}
    (h : m.onGrid? exponent = some d) : d.rank = m.rank := by
  unfold onGrid? at h
  split at h
  · next hlow =>
    split at h
    · next hhigh => obtain rfl := Option.some.inj h; exact hhigh.1
    · obtain rfl := Option.some.inj h; exact hlow
  · split at h
    · next hhigh => obtain rfl := Option.some.inj h; exact hhigh
    · exact absurd h (by simp)

end Magnitude

/-!
### Printed numbers

Zero and the numbers from `10 ^ -4` up to but not including `10 ^ 16` are written
positionally, with at least one digit on each side of the point; the others in scientific
form, with one digit before the point, and neither point nor zeros where that digit is the
only one. The exponent has no plus sign and no leading zeros.
-/

namespace Decimal

/-- The least number that is written positionally, zero apart. -/
def leastPositional : Decimal := ⟨1, -4⟩

/-- The least number that is too large to be written positionally. -/
def leastLarge : Decimal := ⟨1, 16⟩

/-- The digits of an integer. -/
def integerText (n : Nat) : List Char := Nat.toDigits 10 n

/-- The digits of an integer behind zeros that fill up the given width. -/
def paddedText (width n : Nat) : List Char :=
  List.replicate (width - (integerText n).length) '0' ++ integerText n

/-- The decimal with a point between ones and tenths. -/
def positionalText (d : Decimal) : List Char :=
  let places := (-d.exponent).toNat
  if places = 0 then integerText d.numerator ++ ['.', '0']
  else
    let unit := Nat.pow 10 places
    integerText (d.digits / unit) ++ '.' :: paddedText places (d.digits % unit)

/-- The text of an integer with its sign, if negative. -/
def exponentText : Int → List Char
  | .ofNat n => integerText n
  | .negSucc n => '-' :: integerText (n + 1)

/-- The decimal with its first digit before the point and a power of ten after it. -/
def scientificText (d : Decimal) : List Char :=
  match integerText d.digits with
  | [] => []
  | first :: others =>
    let fraction := if others.isEmpty then [] else '.' :: others
    first :: fraction ++ 'e' :: exponentText (d.exponent + others.length)

end Decimal

namespace Magnitude

/-- A magnitude that is written positionally. -/
def isPositional (m : Magnitude) : Bool :=
  m.rank == 0 || (Decimal.leastPositional.rank ≤ m.rank && m.rank < Decimal.leastLarge.rank)

/-- The text of a magnitude. -/
def text (m : Magnitude) : List Char :=
  if m.isPositional then m.shortest.positionalText else m.shortest.scientificText

end Magnitude

/-- The text of a number. -/
def Binary64.text : Binary64 → String
  | .nan => "NaN"
  | .infinite s => if s then "-inf" else "inf"
  | .finite s m => String.ofList (if s then '-' :: m.text else m.text)

end SumProduct
