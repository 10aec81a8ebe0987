import Mathlib.Data.List.Basic
import SumProduct.Text.Basic

/-!
# Lines and listings

A text is a listing of some lines if it has them one after the other, each with its end, and
lines of blanks only wherever they please. The end of the last line may be missing. The lines of a
listing, without those of blanks only, are the lines listed (`Listing.filter_linesOf`).

A line may be ended by a line feed alone or by a carriage return and a line feed. So a line that
itself ends with a carriage return cannot be told from one that does not, and such lines are not
listed. Blank ones may end with one, as it makes no difference there.
-/

namespace SumProduct

/-! ### Texts in which no line ends -/

/-- The text stays on one line: nothing in it belongs to the end of a line. -/
def IsOneLine (text : List Char) : Prop := '\n' ∉ text ∧ '\r' ∉ text

instance (text : List Char) : Decidable (IsOneLine text) :=
  inferInstanceAs (Decidable (_ ∧ _))

@[simp] theorem isOneLine_append {x y : List Char} :
    IsOneLine (x ++ y) ↔ IsOneLine x ∧ IsOneLine y := by
  simp only [IsOneLine, List.mem_append, not_or]
  exact and_and_and_comm

/-- What belongs to the end of a line is blank. -/
theorem isOneLine_of_not_blank {text : List Char} (h : ∀ c ∈ text, isBlank c = false) :
    IsOneLine text := by
  constructor
  · intro hn
    exact absurd (h _ hn) (by decide)
  · intro hr
    exact absurd (h _ hr) (by decide)

theorem isOneLine_of_digits {text : List Char} (h : ∀ c ∈ text, c.isDigit = true) :
    IsOneLine text :=
  isOneLine_of_not_blank fun c hc => isBlank_of_isDigit (h c hc)

/-! ### The first line of a text -/

/-- A character that does not end a line is the first one of its line. -/
theorem linesOf_cons {c : Char} {rest : List Char} (hc : c ≠ '\n')
    (hr : c = '\r' → rest.head? ≠ some '\n') :
    linesOf (c :: rest) = (c :: (linesOf rest).headD []) :: (linesOf rest).tail := by
  rw [linesOf]
  · cases linesOf rest <;> rfl
  · exact hc
  · intro x h hx
    exact hr h (by rw [hx]; rfl)

/-- Characters before the end of a line are those of the line, if no line ends among them. -/
theorem linesOf_append {line x : List Char} {lines : List (List Char)} (hn : '\n' ∉ line)
    (hr : line.getLast? = some '\r' → x.head? ≠ some '\n') (hx : linesOf x = [] :: lines) :
    linesOf (line ++ x) = line :: lines := by
  induction line with
  | nil => exact hx
  | cons c line ih =>
    have hc : c ≠ '\n' := fun h => hn (h ▸ List.mem_cons_self)
    have hline : '\n' ∉ line := fun h => hn (List.mem_cons_of_mem c h)
    rw [List.cons_append, linesOf_cons hc]
    · rw [ih hline]
      · rfl
      · intro hlast
        apply hr
        cases line with
        | nil => exact nomatch hlast
        | cons d line => rw [List.getLast?_cons_cons, hlast]
    · rintro rfl
      cases line with
      | nil => exact hr rfl
      | cons d line =>
        intro hd
        exact hline (Option.some.inj hd ▸ List.mem_cons_self)

theorem linesOf_append_feed {line : List Char} (hn : '\n' ∉ line) (hr : line.getLast? ≠ some '\r')
    (x : List Char) : linesOf (line ++ '\n' :: x) = line :: linesOf x :=
  linesOf_append hn (fun h => absurd h hr) (linesOf_feed x)

theorem linesOf_append_return_feed {line : List Char} (hn : '\n' ∉ line) (x : List Char) :
    linesOf (line ++ '\r' :: '\n' :: x) = line :: linesOf x :=
  linesOf_append hn (fun _ => by simp) (linesOf_return_feed x)

/-- A text in which no line ends is one line. -/
theorem linesOf_unended {line : List Char} (hne : line ≠ []) (hn : '\n' ∉ line) :
    linesOf line = [line] := by
  induction line with
  | nil => exact absurd rfl hne
  | cons c line ih =>
    have hc : c ≠ '\n' := fun h => hn (h ▸ List.mem_cons_self)
    have hline : '\n' ∉ line := fun h => hn (List.mem_cons_of_mem c h)
    rw [linesOf_cons hc]
    · cases line with
      | nil => rfl
      | cons d line =>
        rw [ih (List.cons_ne_nil d line) hline]
        rfl
    · intro _ hfirst
      exact hline (List.mem_of_head? hfirst)

/-! ### Listings -/

/-- The ways to end a line. -/
inductive LineEnd
  /-- By a line feed. -/
  | feed
  /-- By a carriage return and a line feed. -/
  | returnFeed

/-- What ends a line. -/
def LineEnd.text : LineEnd → List Char
  | .feed => ['\n']
  | .returnFeed => ['\r', '\n']

/-- A line that can be listed: not blank, and with nothing in it that belongs to the end of a
line. -/
structure IsListable (line : List Char) : Prop where
  /-- The line has something else than blanks. -/
  not_blank : line.all isBlank = false
  /-- No line ends in it. -/
  no_feed : '\n' ∉ line
  /-- It does not end with half an end of a line. -/
  no_return : line.getLast? ≠ some '\r'

/-- The text has the lines in this order, and blank ones wherever they please. -/
inductive Listing : List Char → List (List Char) → Prop
  /-- Blanks at the end, or nothing. -/
  | blanks {line} (hb : line.all isBlank = true) (hn : '\n' ∉ line) : Listing line []
  /-- A last line without its end. -/
  | last {line} (h : IsListable line) : Listing line [line]
  /-- A blank line and its end, and what follows. -/
  | blankLine {line x lines} (e : LineEnd) (hb : line.all isBlank = true) (hn : '\n' ∉ line)
    (later : Listing x lines) : Listing (line ++ (e.text ++ x)) lines
  /-- A line and its end, and what follows. -/
  | line {line x lines} (e : LineEnd) (h : IsListable line) (later : Listing x lines) :
    Listing (line ++ (e.text ++ x)) (line :: lines)

theorem IsListable.linesOf_append {line : List Char} (h : IsListable line) (e : LineEnd)
    (x : List Char) : linesOf (line ++ (e.text ++ x)) = line :: linesOf x := by
  cases e with
  | feed => exact linesOf_append_feed h.no_feed h.no_return x
  | returnFeed => exact linesOf_append_return_feed h.no_feed x

/-- What comes before the end of a blank line is blank, even if not all of it is in the line. -/
theorem exists_linesOf_blankLine {line : List Char} (hb : line.all isBlank = true)
    (hn : '\n' ∉ line) (e : LineEnd) (x : List Char) :
    ∃ first, linesOf (line ++ (e.text ++ x)) = first :: linesOf x ∧ first.all isBlank = true := by
  cases e with
  | returnFeed => exact ⟨line, linesOf_append_return_feed hn x, hb⟩
  | feed =>
    by_cases hr : line.getLast? = some '\r'
    · -- the carriage return belongs to the end of the line
      obtain ⟨first, rfl⟩ := List.getLast?_eq_some_iff.1 hr
      rw [List.all_append, Bool.and_eq_true] at hb
      have hfirst : '\n' ∉ first := fun h => hn (List.mem_append_left _ h)
      refine ⟨first, ?_, hb.1⟩
      rw [List.append_assoc]
      exact linesOf_append_return_feed hfirst x
    · exact ⟨line, linesOf_append_feed hn hr x, hb⟩

/-- **The lines of a listing**, without the blank ones, are the lines listed. -/
theorem Listing.filter_linesOf {contents : List Char} {lines : List (List Char)}
    (h : Listing contents lines) :
    ((linesOf contents).filter fun line => !line.all isBlank) = lines := by
  induction h with
  | @blanks line hb hn =>
    cases line with
    | nil => rfl
    | cons c line =>
      rw [linesOf_unended (List.cons_ne_nil c line) hn, List.filter_cons_of_neg (by simp [hb]),
        List.filter_nil]
  | @last line h =>
    have hne : line ≠ [] := by
      rintro rfl
      exact nomatch h.not_blank
    rw [linesOf_unended hne h.no_feed, List.filter_cons_of_pos (by simp [h.not_blank]),
      List.filter_nil]
  | blankLine e hb hn _ ih =>
    obtain ⟨first, hlines, hfirst⟩ := exists_linesOf_blankLine hb hn e _
    rw [hlines, List.filter_cons_of_neg (by simp [hfirst]), ih]
  | line e h _ ih =>
    rw [h.linesOf_append, List.filter_cons_of_pos (by simp [h.not_blank]), ih]

end SumProduct
