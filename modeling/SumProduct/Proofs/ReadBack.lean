import SumProduct.Cli.Report
import SumProduct.Proofs.Decimal.Printing
import SumProduct.Proofs.Signs

/-!
# Results fed back in

The text that is printed for a result is an expression itself if the result is written positionally:
one literal, whose value is the result. The scientific form is no expression, as its `e` may not
follow a literal (`evaluate_literal_append`), and neither are the texts for infinity and for what is
no number, which do not begin like a factor.
-/

namespace SumProduct

open Literal

/-- A literal has its value. -/
theorem evaluate_of_isValid {s : String} (h : IsValid s.toList) :
    evaluate s = .ok (decimal s.toList).toBinary64 := by
  refine evaluate_eq_ok_iff.2 ⟨⟨.empty, .term (.factor (.literal s.toList h)), .empty⟩, ?_, rfl⟩
  simp [Sentence.text, Derivation.text, Gap.empty]

/-- What may not follow a literal is the fault, if it does follow one. -/
theorem evaluate_literal_append {s : String} {w x : List Char} {c : Char}
    (hs : s.toList = w ++ c :: x) (hw : IsValid w) (hl : isLiteralChar c = false) (hb : isBlank c = false)
    (hc : c ≠ '*' ∧ c ≠ '+' ∧ c ≠ ')') : evaluate s = .error (.unexpectedCharacter c w.length) := by
  have hstart : (Place.start s.toList).rest = w ++ c :: x := hs
  obtain ⟨q, es, hq, factor⟩ := Derivation.recognised_literal hw (.start s.toList) .empty .empty
    (c :: x) hstart ⟨rfl, fun _ => .cons hl⟩
  have hposition : q.position = w.length := by
    have hsum : q.position + q.rest.length = 0 + s.toList.length :=
      factor.leadsTo.position_add_length
    rw [hq, hs, List.length_append] at hsum
    omega
  have hstay : q.skipBlanks = q := Place.skipBlanks_eq_self (hq ▸ .cons hb)
  have hpeek : q.skipBlanks.peek? = some c := by rw [hstay, Place.peek?_of_rest_eq hq]
  have more : Yields (.more .times (.ok (Derivation.literal w hw).value) q) _ _ _ :=
    .unexpected hpeek hc.1 hc.2.1 hc.2.2
  rw [hstay, hposition] at more
  have term : Yields (.operands .times (.start s.toList)) _ _ _ := .operands factor more
  have expression : Yields (Rule.expression.task (.start s.toList)) _ _ _ := .operands term .fault
  have hnotblank : s.toList.all isBlank = false := by
    rw [hs, List.all_append, List.all_cons, hb, Bool.false_and, Bool.and_false]
  rw [evaluate_of_not_blank hnotblank]
  exact Outcome.ended_of_error (yields_iff_run.1 expression).1

/-! ### Printed magnitudes -/

namespace Magnitude

variable {m : Magnitude}

theorem text_finite (m : Magnitude) : (Binary64.finite false m).text = String.ofList m.text := by
  rw [Binary64.text, if_neg Bool.false_ne_true]

theorem evaluate_text_of_isPositional (h : m.isPositional = true) :
    evaluate (String.ofList m.text) = .ok (.finite false m) := by
  have htext : (String.ofList m.text).toList = m.shortest.positionalText := by
    rw [String.toList_ofList, text, if_pos h]
  rw [evaluate_of_isValid (htext ▸ m.shortest.isValid_positionalText), htext,
    m.toBinary64_positionalText]

theorem evaluate_text_of_not_isPositional (h : m.isPositional = false) :
    'e' ∈ m.text ∧
      evaluate (String.ofList m.text) = .error (.unexpectedCharacter 'e' (m.text.idxOf 'e')) := by
  obtain ⟨literal, exponent, htext, hvalid⟩ := m.shortest.scientificText_eq
  have hm : m.text = literal ++ 'e' :: exponent := by
    rw [text, if_neg (by rw [h]; decide), htext]
  have hnone : 'e' ∉ literal := by
    intro he
    exact absurd (List.all_eq_true.1 hvalid.1 _ he) (by decide)
  have hindex : m.text.idxOf 'e' = literal.length := by
    rw [hm, List.idxOf_append_of_notMem hnone, List.idxOf_cons_self, Nat.add_zero]
  refine ⟨by rw [hm]; simp, ?_⟩
  rw [hindex]
  exact evaluate_literal_append (by rw [String.toList_ofList, hm]) hvalid (by decide) (by decide)
    (by decide)

end Magnitude

/-- **Results fed back in**: for a text that has a value the program prints this value. Evaluated in
turn, the printed text has the same value if that is zero, or at least `1 / 10000` and less than
`10 ^ 16`. Any other number is printed with an `e`, and the first `e` is the fault. The texts for
infinity and for what is no number are faults at their first letters. -/
theorem results_fed_back {s : String} {v : Binary64} (h : evaluate s = .ok v) :
    (Cli.Trial.of false s).line = "Result: " ++ v.text ++ "\n" ∧
      (∀ sign m, v = .finite sign m →
        (m.toRat = 0 ∨ 1 / 10000 ≤ m.toRat ∧ m.toRat < 10 ^ 16 → evaluate v.text = .ok v) ∧
        (¬ (m.toRat = 0 ∨ 1 / 10000 ≤ m.toRat ∧ m.toRat < 10 ^ 16) →
          'e' ∈ v.text.toList ∧
            evaluate v.text = .error (.unexpectedCharacter 'e' (v.text.toList.idxOf 'e')))) ∧
      (∀ sign, v = .infinite sign → evaluate v.text = .error (.expectedNumber (some 'i') 0)) ∧
      (v = .nan → evaluate v.text = .error (.expectedNumber (some 'N') 0)) := by
  obtain ⟨t, -, rfl⟩ := exists_sentence_of_evaluate h
  have hunsigned : t.value.Unsigned := t.derivation.unsigned_value
  generalize t.value = v at h hunsigned ⊢
  have hline : (Cli.Trial.of false s).line = "Result: " ++ v.text ++ "\n" := by
    have hresult : (Cli.Trial.of false s).outcome.result = .ok v := h
    rw [Cli.Trial.line, hresult]
  refine ⟨hline, ?_, ?_, ?_⟩
  · rintro sign m rfl
    obtain rfl : sign = false := hunsigned
    rw [m.text_finite, String.toList_ofList]
    constructor
    · intro hm
      exact Magnitude.evaluate_text_of_isPositional (Magnitude.isPositional_iff.2 hm)
    · intro hm
      have hpositional : m.isPositional = false := by
        rw [← Bool.not_eq_true, Magnitude.isPositional_iff]
        exact hm
      exact Magnitude.evaluate_text_of_not_isPositional hpositional
  · rintro sign rfl
    obtain rfl : sign = false := hunsigned
    rfl
  · rintro rfl
    rfl

/-- The text `0.0001*0.5` as a sentence. -/
def Sentence.fiveHundredThousandths : Sentence :=
  ⟨.empty, .term (.times (.factor (.literal "0.0001".toList (by decide))) .empty .empty
    (.literal "0.5".toList (by decide))), .empty⟩

theorem results_fed_back_five_hundred_thousandths :
    evaluate "0.0001*0.5" = .ok Sentence.fiveHundredThousandths.value ∧
      Sentence.fiveHundredThousandths.value.text = "5e-5" ∧
      evaluate "5e-5" = .error (.unexpectedCharacter 'e' 1) := by
  have h : evaluate "0.0001*0.5" = .ok Sentence.fiveHundredThousandths.value :=
    evaluate_eq_ok_iff.2 ⟨_, rfl, rfl⟩
  let m : Magnitude := ⟨4542503522391573293, by decide +kernel⟩
  have hvalue : Sentence.fiveHundredThousandths.value = .finite false m := by decide +kernel
  have htext : m.text = ['5', 'e', '-', '5'] := by decide +kernel
  have hpositional : ¬ m.isPositional = true := by decide +kernel
  rw [Magnitude.isPositional_iff] at hpositional
  obtain ⟨-, hfault⟩ := (results_fed_back h).2.1 false m hvalue
  obtain ⟨-, hfault⟩ := hfault hpositional
  rw [hvalue, m.text_finite, htext] at hfault
  exact ⟨h, by rw [hvalue, m.text_finite, htext], hfault⟩

end SumProduct
