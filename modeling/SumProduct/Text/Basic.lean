/-!
# Blanks and lines

What the program has to know of characters and of texts in general.

The characters that may stand between the tokens of an expression are those with the
Unicode property White_Space, ten ranges of code points. The property is older than
most of Unicode and closed to additions in practice; the separators of fields
(`U+001C` to `U+001F`), the zero-width space and the byte order mark do not have it.

A line ends with a line feed, or with a carriage return and a line feed; neither belongs
to the line. A carriage return anywhere else is a character of its line, and so is one at
the very end of the text: only a line feed ends a line. What follows the last line feed is
a line too, unless nothing does.
-/

namespace SumProduct

/-!
### Ranges of code points

Properties of characters are given as tables of ranges of code points, the first and the
last of each, in ascending order. A look into a table goes no further than the first range
that starts behind the character.
-/

/-- A number lies in one of the ranges of an ascending table. -/
def inRanges (n : Nat) : List (Nat × Nat) → Bool
  | [] => false
  | range :: ranges => range.1 ≤ n && (n ≤ range.2 || inRanges n ranges)

/-- Stopping early loses nothing, as the table is ascending. -/
theorem inRanges_eq_any {n : Nat} {ranges : List (Nat × Nat)}
    (h : ranges.Pairwise fun a b => a.1 ≤ b.1) :
    inRanges n ranges = ranges.any fun range => range.1 ≤ n && n ≤ range.2 := by
  induction ranges with
  | nil => rfl
  | cons range ranges ih =>
    obtain ⟨hfirst, hrest⟩ := List.pairwise_cons.1 h
    rw [inRanges, ih hrest, List.any_cons]
    by_cases hn : range.1 ≤ n
    · simp [hn]
    · have hnone : (ranges.any fun r => decide (r.1 ≤ n) && decide (n ≤ r.2)) = false := by
        rw [List.any_eq_false]
        intro r hr
        have := hfirst r hr
        simp
        omega
      simp [hn, hnone]

/-! ### Blanks -/

/-- The ranges of code points with the property White_Space. -/
def blankRanges : List (Nat × Nat) :=
  [(0x0009, 0x000D), (0x0020, 0x0020), (0x0085, 0x0085), (0x00A0, 0x00A0), (0x1680, 0x1680),
   (0x2000, 0x200A), (0x2028, 0x2029), (0x202F, 0x202F), (0x205F, 0x205F), (0x3000, 0x3000)]

/-- A character with the property White_Space. -/
def isBlank (c : Char) : Bool := inRanges c.toNat blankRanges

/-- A text without its blanks. -/
def withoutBlanks (s : String) : String :=
  String.ofList (s.toList.filter fun c => !isBlank c)

/-! ### Which characters are blank -/

/-- Every character that the core library calls whitespace is a blank. -/
theorem isBlank_of_isWhitespace {c : Char} (h : c.isWhitespace = true) : isBlank c = true := by
  simp only [Char.isWhitespace, Bool.or_eq_true, decide_eq_true_eq] at h
  rcases h with ((rfl | rfl) | rfl) | rfl <;> decide

/-- No digit is a blank. -/
theorem isBlank_of_isDigit {c : Char} (h : c.isDigit = true) : isBlank c = false := by
  have h₁ : 48 ≤ c.toNat := by
    simp only [Char.isDigit, Bool.and_eq_true, decide_eq_true_eq] at h; exact h.1
  have h₂ : c.toNat ≤ 57 := by
    simp only [Char.isDigit, Bool.and_eq_true, decide_eq_true_eq] at h; exact h.2
  simp [isBlank, blankRanges, inRanges]
  omega

/-- The characters that carry meaning in an expression are not blanks. -/
theorem isBlank_marks :
    isBlank '+' = false ∧ isBlank '*' = false ∧ isBlank '(' = false ∧ isBlank ')' = false ∧
      isBlank '.' = false := by decide

/-! ### Lines -/

/-- The lines of a text, without what ends them. -/
def linesOf : List Char → List (List Char)
  | [] => []
  | '\n' :: rest => [] :: linesOf rest
  | '\r' :: '\n' :: rest => [] :: linesOf rest
  | c :: rest =>
    match linesOf rest with
    | [] => [[c]]
    | line :: lines => (c :: line) :: lines

/-! ### What ends a line -/

@[simp] theorem linesOf_nil : linesOf [] = [] := rfl

@[simp] theorem linesOf_feed (rest : List Char) : linesOf ('\n' :: rest) = [] :: linesOf rest := by
  simp [linesOf]

@[simp] theorem linesOf_return_feed (rest : List Char) :
    linesOf ('\r' :: '\n' :: rest) = [] :: linesOf rest := by
  simp [linesOf]

/-- A carriage return that no line feed follows is a character of its line. -/
example : linesOf ['1', '\r', '2', '\n', '3', '\r'] = [['1', '\r', '2'], ['3', '\r']] := rfl

end SumProduct
