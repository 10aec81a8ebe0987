import SumProduct.Proofs.Faults.Origins
import SumProduct.Proofs.Text.Lines

/-!
# Messages stay on one line

The message of a fault has the character or the literal in it as it stands in the text, so that it
could break a line if that were the end of one. It never is: reading looks for what it expects
behind blanks, and no fault that it comes to names a blank (`namesNoBlank_of_evaluate`). Then the
whole message stays on one line (`Fault.isOneLine_message`).
-/

namespace SumProduct

/-! ### Faults name no blanks -/

/-- No blank is among the characters that the fault names, be it alone or in a literal. -/
def Fault.NamesNoBlank : Fault → Prop
  | .unexpectedCharacter c _ => isBlank c = false
  | .unexpectedEnd _ => True
  | .expectedClosing found _ | .expectedNumber found _ => ∀ c, found = some c → isBlank c = false
  | .badLiteral literal _ _ => ∀ c ∈ literal.toList, isBlank c = false

/-- No fault that arises names a blank. -/
theorem Arises.namesNoBlank {fault : Fault} {s q : Place} (h : Arises fault s q) :
    fault.NamesNoBlank := by
  cases h with
  | ended _ => exact trivial
  | noNumber _ hb _ _ =>
    intro c hc
    obtain rfl := Option.some.inj hc
    exact hb
  | badLiteral _ _ _ =>
    intro c hc
    rw [String.toList_ofList] at hc
    have hall : s.literal.all isLiteralChar = true := List.all_takeWhile
    exact Literal.isBlank_of_isLiteralChar (List.all_eq_true.1 hall c hc)
  | unclosed _ =>
    intro c hc
    exact nomatch hc
  | unexpected _ hb _ _ _ => exact hb

/-- **No fault of an evaluation names a blank**. -/
theorem namesNoBlank_of_evaluate {s : String} {fault : Fault} (h : evaluate s = .error fault) :
    fault.NamesNoBlank := by
  cases hb : s.toList.all isBlank with
  | true =>
    obtain rfl := Except.error.inj ((evaluate_of_blank hb).symm.trans h)
    intro c hc
    exact nomatch hc
  | false =>
    rw [evaluate_of_not_blank hb] at h
    cases hresult : (Rule.expression.run (.start s.toList)).result with
    | error earlier =>
      rw [Outcome.ended_of_error hresult] at h
      obtain rfl := Except.error.inj h
      obtain ⟨_, _, harises⟩ := Rule.arises_run hresult
      exact harises.namesNoBlank
    | ok value =>
      rcases Rule.ended_run_of_ok hresult with hok | hfault
      · exact nomatch hok.symm.trans h
      · obtain rfl := Except.error.inj (hfault.symm.trans h)
        exact isBlank_marks.2.2.2.1

/-! ### Messages -/

theorem all_isDigit_repr (n : Nat) : (Nat.repr n).toList.all Char.isDigit = true := by
  rw [Nat.toList_repr, List.all_eq_true]
  exact fun c hc => Nat.isDigit_of_mem_toDigits (by decide) (by decide) hc

theorem isOneLine_repr (n : Nat) : IsOneLine (Nat.repr n).toList :=
  isOneLine_of_digits (List.all_eq_true.1 (all_isDigit_repr n))

theorem isOneLine_singleton {c : Char} (h : isBlank c = false) :
    IsOneLine (String.singleton c).toList := by
  apply isOneLine_of_not_blank
  intro d hd
  rw [String.toList_singleton, List.mem_singleton] at hd
  rw [hd, h]

theorem Defect.isOneLine_message (defect : Defect) : IsOneLine defect.message.toList := by
  cases defect <;> decide

namespace Fault

theorem isOneLine_foundText {found : Option Char} (h : ∀ c, found = some c → isBlank c = false) :
    IsOneLine (foundText found).toList := by
  cases found with
  | none => decide
  | some c =>
    rw [foundText, String.toList_append, isOneLine_append]
    exact ⟨by decide, isOneLine_singleton (h c rfl)⟩

/-- **The message** of a fault that names no blank stays on one line. -/
theorem isOneLine_message {fault : Fault} (h : fault.NamesNoBlank) :
    IsOneLine fault.message.toList := by
  unfold message
  cases fault with
  | unexpectedCharacter c p =>
    simp only [String.toList_append, isOneLine_append]
    exact ⟨⟨⟨by decide, isOneLine_singleton h⟩, by decide⟩, isOneLine_repr p⟩
  | unexpectedEnd p =>
    simp only [String.toList_append, isOneLine_append]
    exact ⟨by decide, isOneLine_repr p⟩
  | expectedClosing found p | expectedNumber found p =>
    simp only [String.toList_append, isOneLine_append]
    exact ⟨⟨by decide, isOneLine_repr p⟩, isOneLine_foundText h⟩
  | badLiteral literal p defect =>
    simp only [String.toList_append, isOneLine_append]
    exact ⟨⟨⟨⟨⟨by decide, isOneLine_of_not_blank h⟩, by decide⟩, isOneLine_repr p⟩, by decide⟩,
      defect.isOneLine_message⟩

end Fault

end SumProduct
