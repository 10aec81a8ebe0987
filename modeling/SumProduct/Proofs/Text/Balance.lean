import Mathlib.Data.List.Count
import SumProduct.Proofs.Places

/-!
# Parentheses in a text

A text may open more parentheses than it closes, or fewer: the difference is its balance. The most
that any beginning of it leaves open is how deep the text is nested.
-/

namespace SumProduct

/-! ### Balance -/

/-- How many parentheses more a text opens than it closes. -/
def balance (text : List Char) : Int := (text.count '(' : Int) - text.count ')'

@[simp] theorem balance_nil : balance [] = 0 := rfl

@[simp] theorem balance_append (x y : List Char) : balance (x ++ y) = balance x + balance y := by
  simp only [balance, List.count_append]
  omega

theorem balance_cons (c : Char) (x : List Char) : balance (c :: x) = balance [c] + balance x :=
  balance_append [c] x

/-- Texts of a class without parentheses are in balance. -/
theorem balance_of_all {f : Char → Bool} {x : List Char} (h : x.all f = true) (ho : f '(' = false)
    (hc : f ')' = false) : balance x = 0 := by
  rw [balance, count_eq_zero_of_all h ho, count_eq_zero_of_all h hc]
  rfl

theorem balance_blanks {x : List Char} (h : x.all isBlank = true) : balance x = 0 :=
  balance_of_all h (by decide) (by decide)

theorem balance_literal {x : List Char} (h : x.all isLiteralChar = true) : balance x = 0 :=
  balance_of_all h (by decide) (by decide)

theorem Place.balance_rest {p : Place} {c : Char} (h : p.peek? = some c) :
    balance p.rest = balance [c] + balance p.advance.rest := by
  rw [rest_eq_cons h, balance_cons]

theorem Place.balance_skipBlanks (p : Place) : balance p.skipBlanks.rest = balance p.rest := by
  have hblanks : balance (p.rest.takeWhile isBlank) = 0 := balance_blanks List.all_takeWhile
  rw [(Passes.skipBlanks p).1, balance_append, hblanks, Int.zero_add]

theorem Place.balance_skipLiteral (p : Place) : balance p.skipLiteral.rest = balance p.rest := by
  have hliteral : balance p.literal = 0 := balance_literal List.all_takeWhile
  rw [(Passes.skipLiteral p).1, balance_append, hliteral, Int.zero_add]

/-! ### Nesting -/

/-- How many parentheses of a text are open at once, at the most. -/
def nesting : List Char → Int
  | [] => 0
  | c :: x => max 0 (balance [c] + nesting x)

@[simp] theorem nesting_nil : nesting [] = 0 := rfl

theorem nesting_nonneg (x : List Char) : 0 ≤ nesting x := by
  cases x with
  | nil => exact Int.le_refl 0
  | cons c x => exact Int.le_max_left _ _

theorem nesting_append (x y : List Char) :
    nesting (x ++ y) = max (nesting x) (balance x + nesting y) := by
  induction x with
  | nil =>
    have hy := nesting_nonneg y
    rw [List.nil_append, nesting_nil, balance_nil]
    omega
  | cons c x ih =>
    rw [List.cons_append, nesting, nesting, ih, balance_cons c x]
    omega

theorem balance_le_nesting (x : List Char) : balance x ≤ nesting x := by
  have happend := nesting_append x []
  rw [List.append_nil, nesting_nil] at happend
  omega

/-- What is left open at once is what some beginning of the text leaves open. -/
theorem nesting_lt_iff {x : List Char} {n : Int} :
    nesting x < n ↔ ∀ passed, passed <+: x → balance passed < n := by
  constructor
  · rintro h passed ⟨later, rfl⟩
    have happend := nesting_append passed later
    have hle := balance_le_nesting passed
    omega
  · intro h
    induction x generalizing n with
    | nil => exact h [] List.prefix_rfl
    | cons c x ih =>
      have hnil := h [] List.nil_prefix
      have hx : nesting x < n - balance [c] := by
        apply ih
        intro passed hpassed
        have hcons := h (c :: passed) (List.cons_prefix_cons.2 ⟨rfl, hpassed⟩)
        rw [balance_cons] at hcons
        omega
      rw [balance_nil] at hnil
      rw [nesting]
      omega

theorem le_nesting_iff {x : List Char} {n : Int} :
    n ≤ nesting x ↔ ∃ passed, passed <+: x ∧ n ≤ balance passed := by
  rw [← Int.not_lt, nesting_lt_iff]
  simp only [not_forall, Int.not_lt, exists_prop]

/-- No more parentheses are open at once than there are. -/
theorem nesting_le_count (x : List Char) : nesting x ≤ x.count '(' := by
  induction x with
  | nil => exact Int.le_refl 0
  | cons c x ih =>
    have hone : balance [c] ≤ [c].count '(' := by
      rw [balance]
      omega
    have hcount : (c :: x).count '(' = [c].count '(' + x.count '(' := by
      rw [← List.singleton_append, List.count_append]
    rw [nesting, hcount]
    omega

theorem nesting_eq_zero {x : List Char} (h : x.count '(' = 0) : nesting x = 0 := by
  have hle := nesting_le_count x
  have hge := nesting_nonneg x
  omega

theorem nesting_of_all {f : Char → Bool} {x : List Char} (h : x.all f = true) (ho : f '(' = false) :
    nesting x = 0 :=
  nesting_eq_zero (count_eq_zero_of_all h ho)

/-- Behind an opening parenthesis a text is one level deeper. -/
theorem nesting_open (x : List Char) : nesting ('(' :: x) = 1 + nesting x := by
  have hopen : balance ['('] = 1 := rfl
  have hx := nesting_nonneg x
  rw [nesting, hopen]
  omega

/-- A text that opens nothing goes no deeper than the one before it. -/
theorem nesting_append_left {x y : List Char} (h : nesting y = 0) :
    nesting (x ++ y) = nesting x := by
  have hx := balance_le_nesting x
  rw [nesting_append, h]
  omega

/-- A text that opens and closes nothing does not count for the one behind it. -/
theorem nesting_append_right {x y : List Char} (hb : balance x = 0) (hn : nesting x = 0) :
    nesting (x ++ y) = nesting y := by
  have hy := nesting_nonneg y
  rw [nesting_append, hb, hn]
  omega

end SumProduct
