import SumProduct.Grammar.Basic

/-!
# Faults

The ways in which a text fails to be an expression. A fault carries the place where it
was found, counted in characters from the start of the text, and what stood there. Its
message names all of that, so that the fault can be told from the message.
-/

namespace SumProduct

/-- Why a text is not an expression. -/
inductive Fault
  /-- A character that cannot stand after a complete operand. -/
  | unexpectedCharacter (character : Char) (position : Nat)
  /-- The text ends where an operand should start. -/
  | unexpectedEnd (position : Nat)
  /-- A parenthesis is still open, and something else than its end was found. -/
  | expectedClosing (found : Option Char) (position : Nat)
  /-- No literal starts where one should. -/
  | expectedNumber (found : Option Char) (position : Nat)
  /-- A literal that denotes no number. -/
  | badLiteral (literal : String) (position : Nat) (defect : Defect)
  deriving DecidableEq

namespace Fault

/-- Where the fault was found; for a literal, where it starts. -/
def position : Fault → Nat
  | .unexpectedCharacter _ p => p
  | .unexpectedEnd p => p
  | .expectedClosing _ p => p
  | .expectedNumber _ p => p
  | .badLiteral _ p _ => p

/-- The character that was found instead of an expected one. -/
def character? : Fault → Option Char
  | .unexpectedCharacter c _ => some c
  | .unexpectedEnd _ => none
  | .expectedClosing found _ => found
  | .expectedNumber found _ => found
  | .badLiteral _ _ _ => none

/-- The fault lies in the syntax and not in a literal. -/
def IsSyntax : Fault → Prop
  | .badLiteral _ _ _ => False
  | _ => True

/-- The end of a message that names the character found, if there is one. -/
def foundText : Option Char → String
  | none => ""
  | some c => ", found " ++ String.singleton c

/-- The fault in words. Characters and literals stand in it as they are. -/
def message : Fault → String
  | .unexpectedCharacter c p =>
    "Unexpected character: " ++ String.singleton c ++ " at position " ++ Nat.repr p
  | .unexpectedEnd p => "Unexpected end of input at position " ++ Nat.repr p
  | .expectedClosing found p =>
    "Expected closing parenthesis at position " ++ Nat.repr p ++ foundText found
  | .expectedNumber found p => "Expected number at position " ++ Nat.repr p ++ foundText found
  | .badLiteral literal p defect =>
    "Invalid number '" ++ literal ++ "' at position " ++ Nat.repr p ++ ": " ++ defect.message

/-- What the fault was caused by, in words: the defect of a literal. -/
def causes : Fault → List String
  | .badLiteral _ _ defect => [defect.message]
  | _ => []

end Fault

end SumProduct
