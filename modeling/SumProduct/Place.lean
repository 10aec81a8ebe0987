import SumProduct.Text.Basic

/-!
# Places

A place in a text: how many characters came before, and the characters that follow.
Reading only ever moves a place forward.
-/

namespace SumProduct

/-- A place in a text. -/
structure Place where
  /-- How many characters came before. -/
  position : Nat
  /-- The characters from here on. -/
  rest : List Char
  deriving DecidableEq

namespace Place

/-- The start of a text. -/
def start (text : List Char) : Place := ⟨0, text⟩

/-- The place after a number of characters of a text, if it has so many. -/
def at? (text : List Char) (position : Nat) : Option Place :=
  if position ≤ text.length then some ⟨position, text.drop position⟩ else none

/-- The character here. -/
def peek? (p : Place) : Option Char := p.rest.head?

/-- The place after the next `n` characters. -/
def skip (p : Place) (n : Nat) : Place := ⟨p.position + n, p.rest.drop n⟩

/-- The place after the next character; the end of the text stays where it is. -/
def advance (p : Place) : Place :=
  match p.rest with
  | [] => p
  | _ :: rest => ⟨p.position + 1, rest⟩

/-- How many blanks come next. -/
def blanks (p : Place) : Nat := (p.rest.takeWhile isBlank).length

/-- The place after the next blanks. -/
def skipBlanks (p : Place) : Place := ⟨p.position + p.blanks, p.rest.dropWhile isBlank⟩

/-! ### Moving forward -/

@[simp] theorem advance_nil (n : Nat) : advance ⟨n, []⟩ = ⟨n, []⟩ := rfl

@[simp] theorem advance_cons (n : Nat) (c : Char) (rest : List Char) :
    advance ⟨n, c :: rest⟩ = ⟨n + 1, rest⟩ := rfl

theorem length_advance_le (p : Place) : p.advance.rest.length ≤ p.rest.length := by
  rcases p with ⟨n, _ | ⟨c, rest⟩⟩ <;> simp

theorem length_skipBlanks_le (p : Place) : p.skipBlanks.rest.length ≤ p.rest.length :=
  List.Sublist.length_le (List.dropWhile_sublist _)

/-- What follows the blanks is no blank. -/
theorem peek?_skipBlanks {p : Place} {c : Char} (h : p.skipBlanks.peek? = some c) :
    isBlank c = false := by
  have := List.head?_dropWhile_not isBlank p.rest
  simp only [peek?, skipBlanks] at h
  simpa [h] using this

end Place

end SumProduct
