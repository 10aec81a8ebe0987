import SumProduct.Proofs.Grammar.Recognition
import SumProduct.Reading

/-!
# The contracts of the rules

What a rule does at any place of any text, told by the characters ahead alone: how many of them it
passes, to which value it comes with them, and which character it leaves off at. `Rule.Accepts` is
the condition by the grammar, and a rule comes to a value exactly on it
(`rules_keep_their_contracts`).

The rules differ in the blanks they pass and in the character they leave off at. A factor leaves
the blanks behind it, so that only a literal asks something of the next character. A term and an
expression pass them, and each has characters of its own that it leaves to others.
-/

namespace SumProduct

/-- With these characters a rule comes to the value, if this is the next one: they are a text
derived for the rule, with blanks around it, and the rule leaves off before the next one. -/
def Rule.Accepts (value : Binary64) (passed : List Char) (next : Option Char) : Rule → Prop
  | .factor => ∃ (before : Gap) (d : Derivation .factor),
      passed = before.text ++ d.text ∧ d.value = value ∧
        (d.IsLiteral → ∀ c, next = some c → isLiteralChar c = false)
  | .term => ∃ (before : Gap) (d : Derivation .term) (after : Gap),
      passed = before.text ++ (d.text ++ after.text) ∧ d.value = value ∧
        (next = none ∨ next = some '+' ∨ next = some ')')
  | .expression => ∃ (before : Gap) (d : Derivation .expression) (after : Gap),
      passed = before.text ++ (d.text ++ after.text) ∧ d.value = value ∧
        (next = none ∨ next = some ')')

/-! ### The characters passed -/

/-- The places that a place leads to are those a number of characters further on. -/
theorem Place.leadsTo_iff_skip {p q : Place} {n : Nat} :
    p.LeadsTo q ∧ q.position = p.position + n ↔ n ≤ p.rest.length ∧ p.skip n = q := by
  constructor
  · rintro ⟨⟨passed, hrest, hposition⟩, hn⟩
    obtain rfl : n = passed.length := by omega
    refine ⟨by rw [hrest, List.length_append]; exact Nat.le_add_right _ _, ?_⟩
    rw [skip, hrest, List.drop_left, ← hposition]
  · rintro ⟨hn, rfl⟩
    refine ⟨⟨p.rest.take n, (List.take_append_drop n p.rest).symm, ?_⟩, rfl⟩
    rw [List.length_take_of_le hn]
    rfl

/-- The first characters of a text are those before the others. -/
theorem take_eq_iff {text passed : List Char} {n : Nat} :
    text = passed ++ text.drop n ↔ text.take n = passed := by
  conv => lhs; lhs; rw [← List.take_append_drop n text]
  exact List.append_left_inj _

/-- A derivation with blanks lies between two places exactly if it makes up what is between. -/
theorem spans_skip_iff {rule : Rule} {value : Binary64} {p : Place} {n : Nat} :
    Spans rule value p (p.skip n) ↔ rule.Accepts value (p.rest.take n) p.rest[n]? := by
  have hsplit (before after : Gap) (text : List Char) :
      p.rest = before.text ++ (text ++ (after.text ++ p.rest.drop n)) ↔
        p.rest.take n = before.text ++ (text ++ after.text) := by
    rw [← take_eq_iff, List.append_assoc, List.append_assoc]
  simp only [Spans, Place.skip, hsplit]
  cases rule with
  | factor =>
    constructor
    · rintro ⟨before, d, after, htext, hvalue, rfl, hoff⟩
      rw [Gap.empty, List.append_nil] at htext
      exact ⟨before, d, htext, hvalue, fun hd c hc => hoff hd c (List.head?_drop.trans hc)⟩
    · rintro ⟨before, d, htext, hvalue, hoff⟩
      refine ⟨before, d, .empty, ?_, hvalue, rfl,
        fun hd c hc => hoff hd c (List.head?_drop.symm.trans hc)⟩
      rw [Gap.empty, List.append_nil, htext]
  | term | expression =>
    simp only [Derivation.LeavesOff, Rule.Stops, List.head?_drop, Rule.Accepts]

/-! ### The contracts -/

/-- A rule comes to a value exactly if the characters that it passes are accepted for it. -/
theorem Reading.run_iff_accepts {r : Reading} {rule : Rule} {n : Nat} {value : Binary64} :
    (r.run rule).result = .ok value ∧ (r.run rule).place.position = r.position + n ↔
      n ≤ (r.text.drop r.position).length ∧
        rule.Accepts value ((r.text.drop r.position).take n) (r.text.drop r.position)[n]? := by
  have haccepts : Spans rule value r.place (r.place.skip n) ↔
      rule.Accepts value ((r.text.drop r.position).take n) (r.text.drop r.position)[n]? :=
    spans_skip_iff
  rw [← haccepts]
  constructor
  · rintro ⟨hresult, hposition⟩
    obtain ⟨hn, hskip⟩ := Place.leadsTo_iff_skip.1 ⟨rule.leadsTo_run r.place, hposition⟩
    have h := hresult ▸ rule.yields_run r.place
    exact ⟨hn, hskip ▸ h.spans⟩
  · rintro ⟨hn, hspans⟩
    obtain ⟨hleads, hposition⟩ := Place.leadsTo_iff_skip (p := r.place).2 ⟨hn, rfl⟩
    obtain ⟨es, h⟩ := yields_iff_spans.2 ⟨hleads, hspans⟩
    obtain ⟨hresult, hplace, -⟩ := yields_iff_run.1 h
    exact ⟨hresult, (congrArg Place.position hplace).trans hposition⟩

/-- **The contracts of the rules**: at any place of a text a rule comes to a value having passed a
number of characters exactly if the grammar derives these characters, with blanks, for the rule
and the value, and the rule leaves off at the next one. There is one such number at most, and one
such value. -/
theorem rules_keep_their_contracts (r : Reading) (rule : Rule) (n : Nat) (value : Binary64) :
    let ahead := r.text.drop r.position
    ((r.run rule).result = .ok value ∧ (r.run rule).place.position = r.position + n ↔
        n ≤ ahead.length ∧ rule.Accepts value (ahead.take n) ahead[n]?) ∧
      (n ≤ ahead.length → rule.Accepts value (ahead.take n) ahead[n]? →
        ∀ m other, m ≤ ahead.length → rule.Accepts other (ahead.take m) ahead[m]? →
          m = n ∧ other = value) := by
  refine ⟨Reading.run_iff_accepts, fun hn h m other hm hother => ?_⟩
  -- both are what the one run of the rule comes to
  obtain ⟨hvalue, hposition⟩ := Reading.run_iff_accepts.2 ⟨hn, h⟩
  obtain ⟨hvalue', hposition'⟩ := Reading.run_iff_accepts.2 ⟨hm, hother⟩
  exact ⟨by omega, Except.ok.inj (hvalue'.symm.trans hvalue)⟩

/-- A factor leaves the blanks behind it, and a term passes them. -/
example :
    (Reading.run ⟨"2*(1) +3".toList, 2⟩ .factor).place.position = 5 ∧
      (Reading.run ⟨"2*(1) +3".toList, 2⟩ .term).place.position = 6 := ⟨rfl, rfl⟩

end SumProduct
