import SumProduct.Decimal
import SumProduct.Text.Basic

/-!
# Rules, operators and literals

What the grammar of expressions is made of: the names of its rules, the two operators, and
the literals. What texts the rules derive is said in `SumProduct.Grammar.Derivation`, and
how they read a text in `SumProduct.Descent`.

A literal is a run of digits and points. It denotes a number if it has a digit and at
most one point; the point may come first or last, and zeros may stand anywhere. The
run is cut out of the text before anybody asks whether it denotes a number.
-/

namespace SumProduct

/-! ### Rules -/

/-- The rules of the grammar. -/
inductive Rule
  /-- A sum of terms. -/
  | expression
  /-- A product of factors. -/
  | term
  /-- A parenthesised expression or a literal. -/
  | factor
  deriving DecidableEq

/-- The name of a rule. -/
def Rule.name : Rule → String
  | .expression => "expression"
  | .term => "term"
  | .factor => "factor"

/-!
### Operators

Products bind tighter than sums; each is computed from left to right.
-/

/-- An operator between two operands. -/
inductive Operator
  /-- Addition. -/
  | plus
  /-- Multiplication. -/
  | times
  deriving DecidableEq

namespace Operator

/-- The character that stands for the operator. -/
def symbol : Operator → Char
  | .plus => '+'
  | .times => '*'

/-- The operator of the other kind. -/
def other : Operator → Operator
  | .plus => .times
  | .times => .plus

/-- What the operator computes. -/
def apply : Operator → Binary64 → Binary64 → Binary64
  | .plus => (· + ·)
  | .times => (· * ·)

end Operator

/-! ### Literals -/

/-- The characters that literals are made of. -/
def isLiteralChar (c : Char) : Bool := c.isDigit || c == '.'

/-- What keeps a text from denoting a number. -/
inductive Defect
  /-- There is no character at all. -/
  | empty
  /-- There is no digit, a second point, or a character of neither kind. -/
  | malformed
  deriving DecidableEq

/-- The defect in words. -/
def Defect.message : Defect → String
  | .empty => "cannot parse float from empty string"
  | .malformed => "invalid float literal"

namespace Literal

/-- A literal that denotes a number. -/
def IsValid (s : List Char) : Prop :=
  s.all isLiteralChar = true ∧ s.any Char.isDigit = true ∧ s.count '.' ≤ 1

instance (s : List Char) : Decidable (IsValid s) := inferInstanceAs (Decidable (_ ∧ _ ∧ _))

/-- The value of a digit. -/
def digitValue (c : Char) : Nat := c.toNat - '0'.toNat

/-- Digits read as one integer. -/
def integerValue (digits : List Char) : Nat :=
  digits.foldl (fun n c => 10 * n + digitValue c) 0

/-- How many characters follow the first point. -/
def places (s : List Char) : Nat := (s.dropWhile (· != '.')).length - 1

/-- The number that a valid literal denotes. -/
def decimal (s : List Char) : Decimal :=
  ⟨integerValue (s.filter Char.isDigit), -(places s : Int)⟩

/-- The number that a text denotes, or what keeps it from denoting one. -/
def read (s : List Char) : Except Defect Decimal :=
  if s = [] then .error .empty
  else if IsValid s then .ok (decimal s)
  else .error .malformed

/-- The binary64 number nearest to the one that a text denotes. -/
def value (s : List Char) : Except Defect Binary64 := (read s).map Decimal.toBinary64

/-! ### Which literals denote a number -/

theorem read_of_isValid {s : List Char} (h : IsValid s) : read s = .ok (decimal s) := by
  have hne : s ≠ [] := by rintro rfl; simp [IsValid] at h
  simp [read, hne, h]

theorem read_of_not_isValid {s : List Char} (hne : s ≠ []) (h : ¬ IsValid s) :
    read s = .error .malformed := by
  simp [read, hne, h]

theorem isBlank_of_isLiteralChar {c : Char} (h : isLiteralChar c = true) :
    isBlank c = false := by
  simp only [isLiteralChar, Bool.or_eq_true, beq_iff_eq] at h
  rcases h with h | rfl
  · exact isBlank_of_isDigit h
  · decide

/-- The point may come first or last, and zeros count for nothing in front. -/
example :
    read ['.', '5'] = .ok ⟨5, -1⟩ ∧ read ['5', '.'] = .ok ⟨5, 0⟩ ∧
      read ['0', '0', '7'] = .ok ⟨7, 0⟩ ∧ read ['.'] = .error .malformed ∧
      read ['1', '.', '2', '.', '3'] = .error .malformed := ⟨rfl, rfl, rfl, rfl, rfl⟩

end Literal

end SumProduct
