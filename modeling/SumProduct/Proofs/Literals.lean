import Mathlib.Data.List.TakeWhile
import SumProduct.Proofs.Binary64.Nearest
import SumProduct.Proofs.Decimal.Printing
import SumProduct.Proofs.Sessions
import SumProduct.Proofs.Signs

/-!
# Looking for a literal

A literal is looked for at any position of any text, and what is taken is the longest run of digits
and points from there (`isLongestRun_iff`). The run alone decides what comes of it: without a
character there is no number, with a digit and one point at most there is a value, and every other
run is passed as well and is a fault (`longest_run_decides_scan`).

The value is that of the decimal that is written, rounded once: the nearest number, the even one of
two, and infinity from `2 ^ 1024 - 2 ^ 970` on, however long the literal is
(`literal_is_rounded_to_nearest`). What is written is said without the rounding, and without the
digits on both sides of the point being taken together (`Literal.exactValue`).
-/

namespace SumProduct

/-! ### Longest runs -/

/-- The longest run of characters of a class that a text starts with. -/
structure IsLongestRun (f : Char → Bool) (run text : List Char) : Prop where
  /-- The text starts with it. -/
  starts : run <+: text
  /-- All its characters are of the class. -/
  all : run.all f = true
  /-- No longer start of the text is a run. -/
  longest : ∀ other, other <+: text → other.all f = true → other.length ≤ run.length

section LongestRun

variable {f : Char → Bool} {run run' text : List Char}

/-- There is one longest run. -/
theorem IsLongestRun.unique (h : IsLongestRun f run text) (h' : IsLongestRun f run' text) :
    run = run' := by
  have hle := h'.longest run h.starts h.all
  have hge := h.longest run' h'.starts h'.all
  exact (List.prefix_of_prefix_length_le h.starts h'.starts hle).eq_of_length_le hge

theorem isLongestRun_takeWhile (f : Char → Bool) (text : List Char) :
    IsLongestRun f (text.takeWhile f) text where
  starts := List.takeWhile_prefix f
  all := List.all_takeWhile
  longest := by
    rintro other ⟨rest, rfl⟩ hall
    rw [List.takeWhile_append_of_pos (List.all_eq_true.1 hall), List.length_append]
    exact Nat.le_add_right _ _

theorem isLongestRun_iff : IsLongestRun f run text ↔ run = text.takeWhile f := by
  constructor
  · intro h
    exact h.unique (isLongestRun_takeWhile f text)
  · rintro rfl
    exact isLongestRun_takeWhile f text

end LongestRun

/-! ### The outcome of a run -/

theorem Outcome.ofLiteral_of_eq_nil {p : Place} (h : p.literal = []) :
    ofLiteral p = ⟨.error (.expectedNumber p.peek? p.position), p, .empty⟩ := if_pos h

theorem Outcome.ofLiteral_of_ne_nil {p : Place} (h : p.literal ≠ []) :
    ofLiteral p =
      ⟨p.literalResult, p.skipLiteral, .single (.scanned (String.ofList p.literal) p.position)⟩ :=
  if_neg h

/-- A run is a literal if it has a digit and one point at most. -/
theorem Place.isValid_literal_iff (p : Place) :
    Literal.IsValid p.literal ↔ p.literal.any Char.isDigit = true ∧ p.literal.count '.' ≤ 1 :=
  and_iff_right List.all_takeWhile

theorem Place.literalResult_of_isValid {p : Place} (h : Literal.IsValid p.literal) :
    p.literalResult = .ok (Literal.decimal p.literal).toBinary64 := by
  rw [literalResult, Literal.value_eq_ok_iff.2 ⟨h, rfl⟩]
  rfl

theorem Place.literalResult_of_not_isValid {p : Place} (hne : p.literal ≠ [])
    (h : ¬ Literal.IsValid p.literal) :
    p.literalResult = .error (.badLiteral (String.ofList p.literal) p.position .malformed) := by
  rw [literalResult, Literal.value, Literal.read_of_not_isValid hne h]
  rfl

namespace Reading

variable {r : Reading}

theorem position_lt_of_literal_ne_nil (h : r.place.literal ≠ []) : r.position < r.text.length := by
  by_contra hlt
  apply h
  rw [Place.literal, place, List.drop_eq_nil_of_le (not_lt.1 hlt)]
  rfl

theorem scan?_eq_none_iff : r.scan? = none ↔ r.text.length < r.position := by
  constructor
  · intro h
    by_contra hlt
    rw [scan?_eq (not_lt.1 hlt)] at h
    exact nomatch h
  · intro h
    rw [scan?, Place.at?, if_neg (not_le.2 h)]
    rfl

end Reading

/-- **What looking for a literal comes to**, at every position of every text: it fails to have an
outcome beyond the text only, and the longest run of digits and points decides about the outcome. -/
theorem longest_run_decides_scan (text : List Char) (c : ℕ) :
    ((⟨text, c⟩ : Reading).scan? = none ↔ text.length < c) ∧
      (c ≤ text.length → ∃ o run,
        (⟨text, c⟩ : Reading).scan? = some o ∧
        IsLongestRun isLiteralChar run (text.drop c) ∧
        (String.ofList run).utf8ByteSize = run.length ∧
        (run = [] → o.result = .error (.expectedNumber text[c]? c) ∧ o.place.position = c) ∧
        (run.any Char.isDigit = true ∧ run.count '.' ≤ 1 →
          (∃ v, o.result = .ok v) ∧ o.place.position = c + run.length) ∧
        (run ≠ [] → ¬ (run.any Char.isDigit = true ∧ run.count '.' ≤ 1) →
          (∃ defect, o.result = .error (.badLiteral (String.ofList run) c defect) ∧
            defect.message = "invalid float literal") ∧ o.place.position = c + run.length) ∧
        ∀ literal n, o.result ≠ .error (.badLiteral literal n .empty)) := by
  refine ⟨Reading.scan?_eq_none_iff, fun hc => ?_⟩
  let p : Place := Reading.place ⟨text, c⟩
  have hall : p.literal.all isLiteralChar = true := List.all_takeWhile
  have hbytes : (String.ofList p.literal).utf8ByteSize = p.literal.length := by
    rw [utf8ByteSize_of_literal hall, String.length_ofList]
  refine ⟨.ofLiteral p, p.literal, Reading.scan?_eq hc, isLongestRun_iff.2 rfl, hbytes, ?_⟩
  rw [← p.isValid_literal_iff]
  by_cases hne : p.literal = []
  · have hpeek : p.peek? = text[c]? := List.head?_drop
    rw [Outcome.ofLiteral_of_eq_nil hne, hne, hpeek]
    refine ⟨fun _ => ⟨rfl, rfl⟩, fun hvalid => ?_, fun h => absurd rfl h, nofun⟩
    exact absurd hvalid.2.1 (by simp)
  · rw [Outcome.ofLiteral_of_ne_nil hne]
    by_cases hvalid : Literal.IsValid p.literal
    · rw [Place.literalResult_of_isValid hvalid]
      exact ⟨fun h => absurd h hne, fun _ => ⟨⟨_, rfl⟩, rfl⟩, fun _ h => absurd hvalid h, nofun⟩
    · rw [Place.literalResult_of_not_isValid hne hvalid]
      exact ⟨fun h => absurd h hne, fun h => absurd h hvalid, fun _ _ => ⟨⟨_, rfl, rfl⟩, rfl⟩,
        by simp⟩

/-! ### What is written -/

namespace Literal

variable {s whole fraction : List Char}

/-- The number that a literal is written for: the digits before the point, and those behind it as so
many places. -/
def exactValue (s : List Char) : ℚ :=
  let whole := s.takeWhile (· != '.')
  let fraction := s.drop (whole.length + 1)
  Nat.ofDigitChars 10 whole 0 + Nat.ofDigitChars 10 fraction 0 / 10 ^ fraction.length

theorem all_isDigit_of_not_mem (h : s.all isLiteralChar = true) (hpoint : '.' ∉ s) :
    s.all Char.isDigit = true := by
  rw [List.all_eq_true] at h ⊢
  intro c hc
  have hchar := h c hc
  rw [isLiteralChar, Bool.or_eq_true, beq_iff_eq] at hchar
  apply hchar.resolve_right
  rintro rfl
  exact hpoint hc

/-- A literal is a text of digits, or there is one point in it with digits on both sides. -/
theorem IsValid.digits_or_point (h : IsValid s) :
    s.all Char.isDigit = true ∨ ∃ whole fraction,
      s = whole ++ '.' :: fraction ∧ whole.all Char.isDigit = true ∧
        fraction.all Char.isDigit = true := by
  obtain ⟨hall, -, hcount⟩ := h
  by_cases hpoint : '.' ∈ s
  · obtain ⟨whole, fraction, rfl, hwhole⟩ := List.eq_append_cons_of_mem hpoint
    rw [List.count_append, List.count_cons_self] at hcount
    have hfraction : '.' ∉ fraction := List.count_eq_zero.1 (by omega)
    rw [List.all_append, List.all_cons, Bool.and_eq_true, Bool.and_eq_true] at hall
    exact .inr ⟨whole, fraction, rfl, all_isDigit_of_not_mem hall.1 hwhole,
      all_isDigit_of_not_mem hall.2.2 hfraction⟩
  · exact .inl (all_isDigit_of_not_mem hall hpoint)

theorem decimal_digits (h : whole.all Char.isDigit = true) :
    decimal whole = ⟨integerValue whole, 0⟩ := by
  have hplaces : places whole = 0 := by
    rw [places, List.dropWhile_eq_nil_iff.2 (List.all_eq_true.1 (all_ne_point_of_digits h))]
    rfl
  rw [decimal, List.filter_eq_self.2 (List.all_eq_true.1 h), hplaces]
  rfl

theorem exactValue_digits (h : whole.all Char.isDigit = true) :
    exactValue whole = integerValue whole := by
  have hwhole : whole.takeWhile (· != '.') = whole :=
    List.takeWhile_eq_self_iff.2 (List.all_eq_true.1 (all_ne_point_of_digits h))
  rw [exactValue, hwhole, List.drop_eq_nil_of_le (Nat.le_succ _), integerValue_eq]
  simp

theorem exactValue_point (h : whole.all Char.isDigit = true) (fraction : List Char) :
    exactValue (whole ++ '.' :: fraction) =
      integerValue whole + integerValue fraction / 10 ^ fraction.length := by
  have hwhole : (whole ++ '.' :: fraction).takeWhile (· != '.') = whole :=
    (NoneFirst.cons (by decide)).takeWhile_append (all_ne_point_of_digits h)
  have hfraction : (whole ++ '.' :: fraction).drop (whole.length + 1) = fraction := by
    rw [List.drop_length_add_append]
    rfl
  rw [exactValue, hwhole, hfraction, integerValue_eq, integerValue_eq]

/-- **The decimal of a literal is what is written**. -/
theorem toRat_decimal (h : IsValid s) : (decimal s).toRat = exactValue s := by
  rcases h.digits_or_point with hdigits | ⟨whole, fraction, rfl, hwhole, hfraction⟩
  · rw [decimal_digits hdigits, exactValue_digits hdigits, Decimal.toRat, zpow_zero, mul_one]
  · have happend : integerValue (whole ++ fraction) =
        10 ^ fraction.length * integerValue whole + integerValue fraction := by
      rw [integerValue_eq, integerValue_eq, integerValue_eq, Nat.ofDigitChars_append,
        Nat.ofDigitChars_eq_ofDigitChars_zero]
    rw [decimal_point hwhole hfraction, exactValue_point hwhole, Decimal.toRat, happend]
    simp only [zpow_neg, zpow_natCast]
    push_cast
    field_simp

end Literal

/-! ### Values -/

/-- **Literals are rounded to the nearest number**. At every position of every text where the
longest run of digits and points denotes a number, its value is infinity if what is written is `2 ^
1024 - 2 ^ 970` or more, and otherwise the finite number that is nearest to it, of two the one with
the even significand. It is never not a number, and its sign bit is clear. -/
theorem literal_is_rounded_to_nearest {r : Reading} (h : Literal.IsValid r.place.literal) :
    ∃ o x, r.scan? = some o ∧ o.result = .ok x ∧
      ((2 : ℚ) ^ 1024 - 2 ^ 970 ≤ Literal.exactValue r.place.literal → x = .infinite false) ∧
      (Literal.exactValue r.place.literal < (2 : ℚ) ^ 1024 - 2 ^ 970 →
        ∃ m : Magnitude, x = .finite false m ∧ m.IsNearest (Literal.exactValue r.place.literal)) ∧
      x ≠ .nan ∧ ∃ bits, x.encoding? = some bits ∧ bits.testBit 63 = false := by
  obtain ⟨c, rest, hcons, -⟩ := h.exists_eq_cons
  have hne : r.place.literal ≠ [] := by
    rw [hcons]
    exact List.cons_ne_nil c rest
  have hscan := Reading.scan?_eq (Reading.position_lt_of_literal_ne_nil hne).le
  rw [Outcome.ofLiteral_of_ne_nil hne, Place.literalResult_of_isValid h] at hscan
  rw [← Literal.toRat_decimal h]
  have hnan : (Literal.decimal r.place.literal).toBinary64 ≠ .nan := Binary64.ofUnits_ne_nan _ _ _
  have hunsigned : (Literal.decimal r.place.literal).toBinary64.Unsigned :=
    Binary64.unsigned_ofUnits _ _
  exact ⟨_, _, hscan, rfl, Decimal.toBinary64_of_ge, Decimal.toBinary64_of_lt, hnan,
    hunsigned.sign_bit_clear.resolve_left hnan⟩

/-- The text `1+9007199254740993)` behind the plus, with `2 ^ 53 + 1` next. -/
def Reading.halfway : Reading :=
  ⟨['1', '+', '9', '0', '0', '7', '1', '9', '9', '2', '5', '4', '7', '4', '0', '9', '9', '3', ')'],
    2⟩

theorem literal_is_rounded_to_nearest_halfway :
    Literal.IsValid Reading.halfway.place.literal ∧
      ∃ o m, Reading.halfway.scan? = some o ∧ o.result = .ok (.finite false m) ∧
        m.IsNearest (2 ^ 53 + 1) := by
  have hvalid : Literal.IsValid Reading.halfway.place.literal := by decide
  obtain ⟨o, x, hscan, hresult, -, hfinite, -⟩ := literal_is_rounded_to_nearest hvalid
  have hvalue : Literal.exactValue Reading.halfway.place.literal = 2 ^ 53 + 1 := by
    have hinteger : Literal.integerValue Reading.halfway.place.literal = 2 ^ 53 + 1 := by decide
    rw [Literal.exactValue_digits (by decide), hinteger]
    norm_num
  have hlt : (2 ^ 53 + 1 : ℚ) < 2 ^ 1024 - 2 ^ 970 := by
    have hone : (1 : ℚ) ≤ 2 ^ 970 := one_le_pow₀ one_le_two
    rw [show 1024 = 54 + 970 from rfl, pow_add]
    generalize (2 : ℚ) ^ 970 = a at hone ⊢
    linarith
  rw [hvalue] at hfinite
  obtain ⟨m, rfl, hnearest⟩ := hfinite hlt
  exact ⟨hvalid, o, m, hscan, hresult, hnearest⟩

end SumProduct
