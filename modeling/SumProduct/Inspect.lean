import SumProduct.Reading
import SumProduct.Text.GraphemeExtend
import SumProduct.Text.Unassigned

/-!
# Inspection

Texts that show a reading, a fault or a result with all their parts, for the eyes of
someone who looks for a mistake. A record is its name and its fields in braces, a choice
its name and its parts in parentheses, and characters stand in quotes.
-/

namespace SumProduct

/-!
### Quoted characters

A quote and a backslash get a backslash, the common controls their letter, and what
would not be seen as a character of its own is written by its code point. The last
group holds the other controls, the blanks other than the space, the marks that extend
the character before them, the format characters, the fillers, and the code points that
are for private use or not assigned. The tables are those of Unicode 17.
-/

/-- The ranges of code points of control characters, general category Cc. -/
def controlRanges : List (Nat × Nat) := [(0x0000, 0x001F), (0x007F, 0x009F)]

/-- The ranges of code points of format characters, general category Cf. -/
def formatRanges : List (Nat × Nat) :=
  [(0x00AD, 0x00AD), (0x0600, 0x0605), (0x061C, 0x061C), (0x06DD, 0x06DD), (0x070F, 0x070F),
   (0x0890, 0x0891), (0x08E2, 0x08E2), (0x180E, 0x180E), (0x200B, 0x200F), (0x202A, 0x202E),
   (0x2060, 0x2064), (0x2066, 0x206F), (0xFEFF, 0xFEFF), (0xFFF9, 0xFFFB), (0x110BD, 0x110BD),
   (0x110CD, 0x110CD), (0x13430, 0x1343F), (0x1BCA0, 0x1BCA3), (0x1D173, 0x1D17A),
   (0xE0001, 0xE0001), (0xE0020, 0xE007F)]

/-- The ranges of code points for private use, general category Co. -/
def privateUseRanges : List (Nat × Nat) :=
  [(0xE000, 0xF8FF), (0xF0000, 0xFFFFD), (0x100000, 0x10FFFD)]

/-- The ranges of code points of the Hangul fillers: letters that stand for a missing one
and are not drawn. They are the letters with the property Default_Ignorable_Code_Point. -/
def fillerRanges : List (Nat × Nat) :=
  [(0x115F, 0x1160), (0x3164, 0x3164), (0xFFA0, 0xFFA0)]

/-- The ranges of code points of the halfwidth marks of voicing in Katakana. They extend the
letter before them, but have a place of their own to stand in, and so they are letters
themselves: the only ones with the property Grapheme_Extend. -/
def voicingMarkRanges : List (Nat × Nat) := [(0xFF9E, 0xFF9F)]

/-- A mark that is drawn on the character before it and takes no place of its own. -/
def isJoinedMark (c : Char) : Bool :=
  extendsGrapheme c && !inRanges c.toNat voicingMarkRanges

/-- A character that cannot be seen as one of its own. -/
def isHidden (c : Char) : Bool :=
  (c != ' ' && isBlank c) || inRanges c.toNat controlRanges || isJoinedMark c ||
    inRanges c.toNat formatRanges || inRanges c.toNat fillerRanges ||
    inRanges c.toNat privateUseRanges || isUnassigned c

/-- A character by its code point, in hexadecimal. -/
def codePointText (c : Char) : String :=
  "\\u\x7b" ++ String.ofList (Nat.toDigits 16 c.toNat) ++ "\x7d"

/-- A character as it stands between single quotes. -/
def escapedChar (c : Char) : String :=
  if c = '\'' then "\\'"
  else if c = '\\' then "\\\\"
  else if c = '\t' then "\\t"
  else if c = '\r' then "\\r"
  else if c = '\n' then "\\n"
  else if c = '\x00' then "\\0"
  else if isHidden c then codePointText c
  else String.singleton c

/-- A character in single quotes. -/
def quotedChar (c : Char) : String := "'" ++ escapedChar c ++ "'"

/-- A text in double quotes. Between those it is the double quote that is escaped, and
the single quote that stands as it is. -/
def quotedText (s : String) : String :=
  "\"" ++ String.join (s.toList.map fun c =>
    if c = '"' then "\\\"" else if c = '\'' then "'" else escapedChar c) ++ "\""

/-! ### Records and choices -/

namespace Inspect

/-- A name and parts in parentheses. -/
def choice (name part : String) : String := name ++ "(" ++ part ++ ")"

/-- A name and named fields in braces. -/
def record (name : String) (fields : List (String × String)) : String :=
  name ++ " \x7b " ++ ", ".intercalate (fields.map fun f => f.1 ++ ": " ++ f.2) ++ " \x7d"

/-- The character found, or its absence. -/
def found : Option Char → String
  | none => "None"
  | some c => choice "Some" (quotedChar c)

/-- The defect of a literal. -/
def defect (d : Defect) : String :=
  record "ParseFloatError" [("kind", match d with | .empty => "Empty" | .malformed => "Invalid")]

/-- A fault, by what it says of the text: that it does not fit the grammar, or that a
literal has the wrong form. -/
def fault : Fault → String
  | .unexpectedCharacter c p =>
    choice "Syntax" (record "UnexpectedCharacter"
      [("character", quotedChar c), ("position", Nat.repr p)])
  | .unexpectedEnd p =>
    choice "Syntax" (record "UnexpectedEndOfInput" [("position", Nat.repr p)])
  | .expectedClosing c p =>
    choice "Syntax" (record "ExpectedClosingParen"
      [("found", found c), ("position", Nat.repr p)])
  | .expectedNumber c p =>
    choice "Syntax" (record "ExpectedNumber" [("found", found c), ("position", Nat.repr p)])
  | .badLiteral literal p d =>
    choice "Format" (record "FormatError"
      [("literal", quotedText literal), ("position", Nat.repr p), ("source", defect d)])

/-- A value or a fault. -/
def result : Except Fault Binary64 → String
  | .ok value => choice "Ok" value.text
  | .error f => choice "Err" (fault f)

/-- The characters of a text in brackets. -/
def characters (text : List Char) : String :=
  "[" ++ ", ".intercalate (text.map quotedChar) ++ "]"

/-- A reading. -/
def reading (r : Reading) : String :=
  record "Evaluator" [("input", characters r.text), ("cursor", Nat.repr r.position)]

end Inspect

end SumProduct
