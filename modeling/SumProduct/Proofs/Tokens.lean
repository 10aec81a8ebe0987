import SumProduct.Proofs.Grammar.Texts

/-!
# Tokens

A text as what it is made of: `Tokens text ws` says that the text is the tokens `ws` one after the
other, with blanks before, between and behind them. A token is a run of digits and points, which
is as long as it can be, or a single other character that is no blank. Every text is made of
tokens in this way (`exists_tokens`), also one that is no expression.

The characters of the tokens alone are the `marks` of the text. They do not always tell the
tokens: two literals with blanks between them have the same marks as one.
-/

namespace SumProduct

/-! ### Marks -/

/-- The characters of a text that are no blanks. -/
def marks (text : List Char) : List Char := text.filter fun c => !isBlank c

@[simp] theorem marks_append (x y : List Char) : marks (x ++ y) = marks x ++ marks y :=
  List.filter_append x y

@[simp] theorem marks_gap (g : Gap) : marks g.text = [] :=
  List.filter_eq_nil_iff.2 fun c hc => by simp [List.all_eq_true.1 g.blank c hc]

theorem marks_cons {c : Char} (h : isBlank c = false) (x : List Char) :
    marks (c :: x) = c :: marks x :=
  List.filter_cons_of_pos (by simp [h])

theorem all_isBlank_iff {x : List Char} : x.all isBlank = true ↔ marks x = [] := by
  simp [marks, List.filter_eq_nil_iff]

/-- Whether there are only blanks is told by the marks. -/
theorem all_isBlank_congr {x y : List Char} (h : marks x = marks y) :
    x.all isBlank = y.all isBlank := by
  rw [Bool.eq_iff_iff, all_isBlank_iff, all_isBlank_iff, h]

theorem toList_withoutBlanks (s : String) : (withoutBlanks s).toList = marks s.toList :=
  String.toList_ofList

/-- The first mark stands behind blanks. -/
theorem exists_gap_of_marks {x r : List Char} {c : Char} (h : marks x = c :: r) :
    ∃ (g : Gap) (y : List Char), x = g.text ++ c :: y ∧ isBlank c = false ∧ marks y = r := by
  obtain ⟨u, y, rfl, hu, hc, hy⟩ := List.filter_eq_cons_iff.1 h
  exact ⟨⟨u, List.all_eq_true.2 fun d hd => by simpa using hu d hd⟩, y, rfl, by simpa using hc, hy⟩

/-! ### Tokens -/

/-- What a text is made of besides blanks. -/
inductive IsToken : List Char → Prop
  /-- A character that belongs to no literal. -/
  | mark {c} (hb : isBlank c = false) (hl : isLiteralChar c = false) : IsToken [c]
  /-- A run of digits and points. -/
  | literal {w} (hne : w ≠ []) (hw : w.all isLiteralChar = true) : IsToken w

/-- The token does not go on in the text behind it. -/
def Complete (w x : List Char) : Prop := w.all isLiteralChar = true → NoneFirst isLiteralChar x

/-- The text is made of the tokens. -/
inductive Tokens : List Char → List (List Char) → Prop
  /-- There are only blanks. -/
  | blanks (g : Gap) : Tokens g.text []
  /-- Blanks, a token, and what follows it. -/
  | token (g : Gap) {w x ws} (hw : IsToken w) (hx : Complete w x) (later : Tokens x ws) :
    Tokens (g.text ++ (w ++ x)) (w :: ws)

namespace IsToken

variable {w : List Char}

theorem exists_eq_cons (h : IsToken w) : ∃ c rest, w = c :: rest ∧ isBlank c = false := by
  cases h with
  | @mark c hb _ => exact ⟨c, [], rfl, hb⟩
  | literal hne hw =>
    obtain ⟨c, rest, rfl⟩ := List.exists_cons_of_ne_nil hne
    exact ⟨c, rest, rfl, Literal.isBlank_of_isLiteralChar (List.all_eq_true.1 hw c List.mem_cons_self)⟩

theorem noneFirst_isBlank (h : IsToken w) (x : List Char) : NoneFirst isBlank (w ++ x) := by
  obtain ⟨c, rest, rfl, hc⟩ := h.exists_eq_cons
  exact .cons hc

theorem marks_eq (h : IsToken w) : marks w = w := by
  refine List.filter_eq_self.2 fun c hc => ?_
  cases h with
  | mark hb _ =>
    obtain rfl := List.mem_singleton.1 hc
    simp [hb]
  | literal _ hw => simp [Literal.isBlank_of_isLiteralChar (List.all_eq_true.1 hw c hc)]

end IsToken

theorem complete_mark {c : Char} (hl : isLiteralChar c = false) (x : List Char) : Complete [c] x := by
  simp [Complete, hl]

/-- **Every text** is made of tokens. -/
theorem exists_tokens (x : List Char) : ∃ ws, Tokens x ws := by
  induction hn : x.length using Nat.strongRecOn generalizing x with
  | ind n ih =>
    cases hx : marks x with
    | nil => exact ⟨[], .blanks ⟨x, all_isBlank_iff.2 hx⟩⟩
    | cons c r =>
      obtain ⟨g, y, rfl, hb, -⟩ := exists_gap_of_marks hx
      cases hl : isLiteralChar c with
      | false =>
        obtain ⟨ws, later⟩ := ih y.length (by rw [← hn]; simp; omega) y rfl
        exact ⟨_, .token g (.mark hb hl) (complete_mark hl y) later⟩
      | true =>
        obtain ⟨ws, later⟩ := ih (y.dropWhile isLiteralChar).length (by
          have := List.Sublist.length_le (List.dropWhile_sublist isLiteralChar (l := y))
          rw [← hn, List.length_append, List.length_cons]
          omega) _ rfl
        have hw : (c :: y.takeWhile isLiteralChar).all isLiteralChar = true := by
          rw [List.all_cons, hl, List.all_takeWhile]
          rfl
        have htext := Tokens.token g (.literal (List.cons_ne_nil _ _) hw) (fun _ => .dropWhile) later
        rw [List.cons_append, List.takeWhile_append_dropWhile] at htext
        exact ⟨_, htext⟩

end SumProduct
