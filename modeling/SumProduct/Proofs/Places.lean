import Mathlib.Logic.Basic
import SumProduct.Fault
import SumProduct.Place

/-!
# Places and what comes next

A text cut in two where a class of characters ends, which is how blanks and literals are
taken off a text: if nothing of the class comes first in the second part, the first part
is what is taken off. And the places that reading can get to from a place, and the same fault
at another place: of the same kind, with the same character, literal and defect.
-/

namespace SumProduct

/-! ### Texts cut in two -/

/-- No character of a class comes first. -/
def NoneFirst (f : Char → Bool) (text : List Char) : Prop :=
  ∀ c, text.head? = some c → f c = false

namespace NoneFirst

variable {f : Char → Bool} {c : Char} {u v x y : List Char}

theorem nil : NoneFirst f [] := fun _ h => nomatch h

theorem cons (h : f c = false) : NoneFirst f (c :: x) := by
  intro d hd
  rw [← Option.some.inj hd]
  exact h

theorem of_cons (h : NoneFirst f (c :: x)) : f c = false := h c rfl

theorem dropWhile : NoneFirst f (x.dropWhile f) := by
  intro c h
  have := List.head?_dropWhile_not f x
  simpa [h] using this

theorem takeWhile_eq_nil (h : NoneFirst f x) : x.takeWhile f = [] := by
  cases x with
  | nil => rfl
  | cons c x => exact List.takeWhile_cons_of_neg (by simp [h.of_cons])

theorem dropWhile_eq (h : NoneFirst f x) : x.dropWhile f = x := by
  cases x with
  | nil => rfl
  | cons c x => exact List.dropWhile_cons_of_neg (by simp [h.of_cons])

theorem takeWhile_append (h : NoneFirst f x) (hu : u.all f = true) : (u ++ x).takeWhile f = u := by
  rw [List.takeWhile_append_of_pos (List.all_eq_true.1 hu), h.takeWhile_eq_nil, List.append_nil]

theorem dropWhile_append (h : NoneFirst f x) (hu : u.all f = true) : (u ++ x).dropWhile f = x := by
  rw [List.dropWhile_append_of_pos (List.all_eq_true.1 hu), h.dropWhile_eq]

/-- There is one way to cut a text where a class ends. -/
theorem append_inj (hx : NoneFirst f x) (hy : NoneFirst f y) (hu : u.all f = true)
    (hv : v.all f = true) (h : u ++ x = v ++ y) : u = v ∧ x = y := by
  constructor
  · rw [← hx.takeWhile_append hu, h, hy.takeWhile_append hv]
  · rw [← hx.dropWhile_append hu, h, hy.dropWhile_append hv]

end NoneFirst

/-- A character outside of a class does not occur in a text of the class. -/
theorem count_eq_zero_of_all {f : Char → Bool} {x : List Char} {c : Char} (hx : x.all f = true)
    (hc : f c = false) : x.count c = 0 := by
  apply List.count_eq_zero_of_not_mem
  intro hmem
  rw [List.all_eq_true.1 hx c hmem] at hc
  exact nomatch hc

/-! ### The literal at a place -/

namespace Place

/-- The longest run of digits and points. -/
def literal (p : Place) : List Char := p.rest.takeWhile isLiteralChar

/-- The place after the longest run of digits and points. -/
def skipLiteral (p : Place) : Place :=
  ⟨p.position + p.literal.length, p.rest.dropWhile isLiteralChar⟩

theorem rest_eq_cons {p : Place} {c : Char} (h : p.peek? = some c) :
    p.rest = c :: p.advance.rest := by
  rcases p with ⟨n, _ | ⟨d, rest⟩⟩
  · simp [peek?] at h
  · simp only [peek?, List.head?_cons, Option.some.injEq] at h
    rw [h, advance_cons]

theorem peek?_of_rest_eq {p : Place} {c : Char} {x : List Char} (h : p.rest = c :: x) :
    p.peek? = some c := congrArg List.head? h

theorem rest_advance {p : Place} {c : Char} {x : List Char} (h : p.rest = c :: x) :
    p.advance.rest = x := by
  rw [rest_eq_cons (peek?_of_rest_eq h)] at h
  exact (List.cons.inj h).2

theorem rest_eq_nil {p : Place} (h : p.peek? = none) : p.rest = [] := by
  simpa [peek?] using h

theorem literal_eq_nil {p : Place} {c : Char} (h : p.peek? = some c)
    (hc : isLiteralChar c = false) : p.literal = [] := by
  rw [literal, rest_eq_cons h, List.takeWhile_cons_of_neg (by simp [hc])]

theorem literal_ne_nil {p : Place} {c : Char} (h : p.peek? = some c)
    (hc : isLiteralChar c = true) : p.literal ≠ [] := by
  rw [literal, rest_eq_cons h, List.takeWhile_cons_of_pos hc]
  exact List.cons_ne_nil _ _

theorem length_advance_lt {p : Place} {c : Char} (h : p.peek? = some c) :
    p.advance.rest.length < p.rest.length := by
  rw [rest_eq_cons h]
  exact Nat.lt_succ_self _

theorem length_skipLiteral_lt {p : Place} {c : Char} (h : p.peek? = some c)
    (hc : isLiteralChar c = true) : p.skipLiteral.rest.length < p.rest.length := by
  rw [skipLiteral, rest_eq_cons h, List.dropWhile_cons_of_pos hc]
  exact Nat.lt_succ_of_le (List.Sublist.length_le (List.dropWhile_sublist _))

/-! ### Places in a text that is cut in two -/

variable {p : Place} {u x : List Char}

theorem peek?_eq_head? (p : Place) : p.peek? = p.rest.head? := rfl

theorem rest_skipBlanks (h : p.rest = u ++ x) (hu : u.all isBlank = true)
    (hx : NoneFirst isBlank x) : p.skipBlanks.rest = x := by
  rw [skipBlanks, h, hx.dropWhile_append hu]

theorem skipBlanks_eq_self (h : NoneFirst isBlank p.rest) : p.skipBlanks = p := by
  simp only [skipBlanks, blanks, h.takeWhile_eq_nil, h.dropWhile_eq]
  rfl

theorem skipBlanks_append (n : Nat) (hu : u.all isBlank = true) (hx : NoneFirst isBlank x) :
    skipBlanks ⟨n, u ++ x⟩ = ⟨n + u.length, x⟩ := by
  rw [skipBlanks, blanks, hx.takeWhile_append hu, hx.dropWhile_append hu]

theorem skipBlanks_cons {n : Nat} {c : Char} {rest : List Char} (hc : isBlank c = true) :
    skipBlanks ⟨n, c :: rest⟩ = skipBlanks ⟨n + 1, rest⟩ := by
  simp [skipBlanks, blanks, hc]
  omega

theorem literal_eq (h : p.rest = u ++ x) (hu : u.all isLiteralChar = true)
    (hx : NoneFirst isLiteralChar x) : p.literal = u := by
  rw [literal, h, hx.takeWhile_append hu]

theorem peek?_append_literal {c : Char} (h : p.peek? = some c) (hc : isLiteralChar c = true)
    (x : List Char) : peek? ⟨p.position, p.literal ++ x⟩ = some c := by
  rw [literal, rest_eq_cons h, List.takeWhile_cons_of_pos hc]
  rfl

/-- The literal is the same before another text that does not go on with it. -/
theorem literal_append_literal (hx : NoneFirst isLiteralChar x) :
    literal ⟨p.position, p.literal ++ x⟩ = p.literal :=
  hx.takeWhile_append List.all_takeWhile

theorem skipLiteral_append_literal (hx : NoneFirst isLiteralChar x) :
    skipLiteral ⟨p.position, p.literal ++ x⟩ = ⟨p.skipLiteral.position, x⟩ := by
  have hall : p.literal.all isLiteralChar = true := List.all_takeWhile
  rw [skipLiteral, literal_append_literal hx, hx.dropWhile_append hall]
  rfl

theorem rest_skipLiteral (h : p.rest = u ++ x) (hu : u.all isLiteralChar = true)
    (hx : NoneFirst isLiteralChar x) : p.skipLiteral.rest = x := by
  rw [skipLiteral, h, hx.dropWhile_append hu]

theorem skipLiteral_append (n : Nat) (hu : u.all isLiteralChar = true)
    (hx : NoneFirst isLiteralChar x) : skipLiteral ⟨n, u ++ x⟩ = ⟨n + u.length, x⟩ := by
  rw [skipLiteral, literal_eq rfl hu hx, hx.dropWhile_append hu]

end Place

/-! ### A text in front -/

namespace Place

/-- The place with `n` more characters before it. -/
def moveBy (n : Nat) (p : Place) : Place := ⟨n + p.position, p.rest⟩

variable (n : Nat) (p : Place)

@[simp] theorem position_moveBy : (p.moveBy n).position = n + p.position := rfl

@[simp] theorem rest_moveBy : (p.moveBy n).rest = p.rest := rfl

@[simp] theorem peek?_moveBy : (p.moveBy n).peek? = p.peek? := rfl

@[simp] theorem blanks_moveBy : (p.moveBy n).blanks = p.blanks := rfl

@[simp] theorem literal_moveBy : (p.moveBy n).literal = p.literal := rfl

@[simp] theorem advance_moveBy : (p.moveBy n).advance = p.advance.moveBy n := by
  rcases p with ⟨m, _ | ⟨c, rest⟩⟩ <;> rfl

@[simp] theorem skipBlanks_moveBy : (p.moveBy n).skipBlanks = p.skipBlanks.moveBy n := by
  simp [skipBlanks, moveBy, blanks, Nat.add_assoc]

@[simp] theorem skipLiteral_moveBy : (p.moveBy n).skipLiteral = p.skipLiteral.moveBy n := by
  simp [skipLiteral, moveBy, literal, Nat.add_assoc]

end Place

/-! ### Places only move forward -/

/-- Going on from one place over a text leads to the other. -/
def Place.Passes (p : Place) (passed : List Char) (q : Place) : Prop :=
  p.rest = passed ++ q.rest ∧ q.position = p.position + passed.length

theorem Place.Passes.refl (p : Place) : p.Passes [] p := ⟨rfl, rfl⟩

theorem Place.Passes.advance {p : Place} {c : Char} (h : p.peek? = some c) :
    p.Passes [c] p.advance := by
  refine ⟨rest_eq_cons h, ?_⟩
  rcases p with ⟨n, _ | ⟨d, rest⟩⟩
  · exact nomatch h
  · rfl

theorem Place.Passes.skipBlanks (p : Place) : p.Passes (p.rest.takeWhile isBlank) p.skipBlanks :=
  ⟨List.takeWhile_append_dropWhile.symm, rfl⟩

theorem Place.Passes.skipLiteral (p : Place) : p.Passes p.literal p.skipLiteral :=
  ⟨List.takeWhile_append_dropWhile.symm, rfl⟩

theorem Place.Passes.append {p q r : Place} {u v : List Char} (h₁ : p.Passes u q)
    (h₂ : q.Passes v r) : p.Passes (u ++ v) r := by
  obtain ⟨hu, hq⟩ := h₁
  obtain ⟨hv, hr⟩ := h₂
  refine ⟨by rw [hu, hv, List.append_assoc], ?_⟩
  rw [hr, hq, List.length_append, Nat.add_assoc]

/-- Going on from one place leads to the other. -/
def Place.LeadsTo (p q : Place) : Prop := ∃ passed, p.Passes passed q

namespace Place.LeadsTo

theorem refl (p : Place) : p.LeadsTo p := ⟨[], .refl p⟩

theorem trans {p q r : Place} (h₁ : p.LeadsTo q) (h₂ : q.LeadsTo r) : p.LeadsTo r := by
  obtain ⟨u, hu⟩ := h₁
  obtain ⟨v, hv⟩ := h₂
  exact ⟨u ++ v, hu.append hv⟩

theorem advance (p : Place) : p.LeadsTo p.advance := by
  rcases p with ⟨n, _ | ⟨c, rest⟩⟩
  · exact refl _
  · exact ⟨[c], rfl, rfl⟩

theorem skipBlanks (p : Place) : p.LeadsTo p.skipBlanks := ⟨_, .skipBlanks p⟩

theorem skipLiteral (p : Place) : p.LeadsTo p.skipLiteral := ⟨p.literal, .skipLiteral p⟩

theorem length_le {p q : Place} (h : p.LeadsTo q) : q.rest.length ≤ p.rest.length := by
  obtain ⟨u, hu, -⟩ := h
  rw [hu, List.length_append]
  exact Nat.le_add_left _ _

theorem position_le {p q : Place} (h : p.LeadsTo q) : p.position ≤ q.position := by
  obtain ⟨u, -, hq⟩ := h
  rw [hq]
  exact Nat.le_add_right _ _

/-- What has been read and what is left make up the same text all along. -/
theorem position_add_length {p q : Place} (h : p.LeadsTo q) :
    q.position + q.rest.length = p.position + p.rest.length := by
  obtain ⟨u, hu, hq⟩ := h
  rw [hu, hq, List.length_append, Nat.add_assoc]

/-- What is left of a text is what comes behind the position. -/
theorem rest_eq_drop {p q : Place} {text : List Char} (h : p.LeadsTo q)
    (hp : p.rest = text.drop p.position) : q.rest = text.drop q.position := by
  obtain ⟨u, hu, hq⟩ := h
  rw [hq, ← List.drop_drop, ← hp, hu, List.drop_left]

/-- How much is left says where one is. -/
theorem eq {p q r : Place} (h₁ : p.LeadsTo q) (h₂ : p.LeadsTo r) (h : q.rest = r.rest) :
    q = r := by
  obtain ⟨u, hu, hq⟩ := h₁
  obtain ⟨v, hv, hr⟩ := h₂
  obtain rfl : u = v := List.append_cancel_right (hu.symm.trans (h ▸ hv))
  rcases q with ⟨n, rest⟩
  rcases r with ⟨m, rest'⟩
  obtain rfl : rest = rest' := h
  obtain rfl : n = m := hq.trans hr.symm
  rfl

end Place.LeadsTo

/-! ### Faults at other positions -/

namespace Fault

/-- The same fault at another position. -/
def moveTo (n : Nat) : Fault → Fault
  | .unexpectedCharacter c _ => .unexpectedCharacter c n
  | .unexpectedEnd _ => .unexpectedEnd n
  | .expectedClosing found _ => .expectedClosing found n
  | .expectedNumber found _ => .expectedNumber found n
  | .badLiteral literal _ defect => .badLiteral literal n defect

/-- The same fault with `n` more characters before it. -/
@[simp] def moveBy (n : Nat) : Fault → Fault
  | .unexpectedCharacter c p => .unexpectedCharacter c (n + p)
  | .unexpectedEnd p => .unexpectedEnd (n + p)
  | .expectedClosing found p => .expectedClosing found (n + p)
  | .expectedNumber found p => .expectedNumber found (n + p)
  | .badLiteral literal p defect => .badLiteral literal (n + p) defect

@[simp] theorem position_moveTo (n : Nat) (fault : Fault) : (fault.moveTo n).position = n := by
  cases fault <;> rfl

@[simp] theorem moveTo_moveTo (n m : Nat) (fault : Fault) :
    (fault.moveTo n).moveTo m = fault.moveTo m := by
  cases fault <;> rfl

theorem moveBy_eq_moveTo (n : Nat) (fault : Fault) :
    fault.moveBy n = fault.moveTo (n + fault.position) := by
  cases fault <;> rfl

end Fault

/-! ### Results with a moved fault -/

@[simp] theorem mapError_ok (f : Fault → Fault) (value : Binary64) :
    Except.mapError f (.ok value) = .ok value := rfl

@[simp] theorem mapError_error (f : Fault → Fault) (fault : Fault) :
    Except.mapError f (.error fault : Except Fault Binary64) = .error (f fault) := rfl

@[simp] theorem mapError_map (f : Fault → Fault) (g : Binary64 → Binary64)
    (result : Except Fault Binary64) :
    Except.mapError f (result.map g) = (Except.mapError f result).map g := by
  cases result <;> rfl

end SumProduct
