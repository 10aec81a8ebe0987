import SumProduct.Grammar.Basic

/-!
# Derivations

The language of expressions by its grammar alone, without a word on how a text is read.
A derivation is a tree in which every node is one use of a rule:

    expression = term | expression "+" term
    term       = factor | term "*" factor
    factor     = literal | "(" expression ")"

Blanks are part of the tree, as the gaps that they fill: around an operator and inside
parentheses. There is no gap before the first token and after the last, so that every
blank between two tokens has exactly one node to belong to. Sums and products lean to
the left, which is the order they are computed in.
-/

namespace SumProduct

/-- Blanks between two tokens, possibly none. -/
structure Gap where
  /-- The blanks. -/
  text : List Char
  blank : text.all isBlank = true
  deriving DecidableEq

/-- A use of a rule of the grammar, with all the uses under it. -/
inductive Derivation : Rule → Type
  /-- A literal that denotes a number. -/
  | literal (text : List Char) (valid : Literal.IsValid text) : Derivation .factor
  /-- An expression in parentheses. -/
  | parenthesised (before : Gap) (inner : Derivation .expression) (after : Gap) :
    Derivation .factor
  /-- A product of one factor. -/
  | factor (only : Derivation .factor) : Derivation .term
  /-- A product and one more factor. -/
  | times (left : Derivation .term) (before after : Gap) (right : Derivation .factor) :
    Derivation .term
  /-- A sum of one term. -/
  | term (only : Derivation .term) : Derivation .expression
  /-- A sum and one more term. -/
  | plus (left : Derivation .expression) (before after : Gap) (right : Derivation .term) :
    Derivation .expression

namespace Derivation

/-- The text derived. -/
def text {rule : Rule} : Derivation rule → List Char
  | .literal s _ => s
  | .parenthesised b inner a => '(' :: (b.text ++ inner.text ++ a.text ++ [')'])
  | .factor only => only.text
  | .times left b a right =>
    left.text ++ b.text ++ Operator.times.symbol :: (a.text ++ right.text)
  | .term only => only.text
  | .plus left b a right =>
    left.text ++ b.text ++ Operator.plus.symbol :: (a.text ++ right.text)

/-- The value of the text derived: sums and products from left to right, each rounded. -/
def value {rule : Rule} : Derivation rule → Binary64
  | .literal s _ => (Literal.decimal s).toBinary64
  | .parenthesised _ inner _ => inner.value
  | .factor only => only.value
  | .times left _ _ right => left.value * right.value
  | .term only => only.value
  | .plus left _ _ right => left.value + right.value

end Derivation

/-- A derivation with the blanks around it: of a whole text, if that is an expression. -/
structure Sentence where
  /-- The blanks in front. -/
  before : Gap
  /-- The expression. -/
  derivation : Derivation .expression
  /-- The blanks at the end. -/
  after : Gap

/-- The text of a sentence. -/
def Sentence.text (s : Sentence) : List Char :=
  s.before.text ++ s.derivation.text ++ s.after.text

/-- The value of a sentence. -/
def Sentence.value (s : Sentence) : Binary64 := s.derivation.value

end SumProduct
