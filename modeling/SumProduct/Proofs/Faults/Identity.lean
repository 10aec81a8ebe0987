import Mathlib
import SumProduct.Proofs.Faults.Messages
import SumProduct.Proofs.Places

/-!
# The message tells the fault

Characters and literals stand in a message as they are, and a literal may be any text, also one that
looks like the rest of a message. The message tells the fault for all that
(`message_tells_fault`). Its first words tell the kind. Then it is read from whichever end is fixed:
behind the words for what was expected come the digits of the position, which end where the text
ends or with a comma; and in front of a position that ends a message, or that only a defect follows,
there is a blank, so that the digits are found from the end, however the text in front goes on.
-/

namespace SumProduct

/-! ### Numbers in a text -/

/-- No character of a class comes last. -/
def NoneLast (f : Char → Bool) (text : List Char) : Prop := NoneFirst f text.reverse

/-- What ends in no digit, and a number behind it. -/
theorem append_repr_inj {s t : String} {n m : Nat} (hs : NoneLast Char.isDigit s.toList)
    (ht : NoneLast Char.isDigit t.toList) (h : s ++ Nat.repr n = t ++ Nat.repr m) :
    s = t ∧ n = m := by
  have hreverse := congrArg (fun text => text.toList.reverse) h
  simp only [String.toList_append, List.reverse_append] at hreverse
  have hdigits (n : Nat) : (Nat.repr n).toList.reverse.all Char.isDigit = true := by
    rw [List.all_reverse]
    exact all_isDigit_repr n
  obtain ⟨hn, hst⟩ := hs.append_inj ht (hdigits n) (hdigits m) hreverse
  exact ⟨String.toList_inj.1 (List.reverse_inj.1 hst),
    Nat.repr_injective (String.toList_inj.1 (List.reverse_inj.1 hn))⟩

/-- Words with a blank at the end. -/
theorem noneLast_append_words (s : String) {words : String}
    (h : words.toList.getLast? = some ' ') : NoneLast Char.isDigit (s ++ words).toList := by
  intro c hc
  rw [String.toList_append, List.head?_reverse, List.getLast?_append, h, Option.some_or] at hc
  rw [← Option.some.inj hc]
  decide

/-! ### Parts of messages -/

namespace Fault

theorem foundText_inj {found found' : Option Char} (h : foundText found = foundText found') :
    found = found' := by
  cases found with
  | none => cases found' with
    | none => rfl
    | some d => simp [foundText, String.ext_iff] at h
  | some c => cases found' with
    | none => simp [foundText, String.ext_iff] at h
    | some d => simpa [foundText, String.ext_iff] using h

/-- What comes behind a position is no digit. -/
theorem noneFirst_isDigit_foundText (found : Option Char) :
    NoneFirst Char.isDigit (foundText found).toList := by
  cases found with
  | none => exact .nil
  | some c =>
    rw [foundText, String.toList_append]
    exact .cons (c := ',') rfl

/-- A position, and the character found there or none. -/
theorem repr_append_foundText_inj {n m : Nat} {found found' : Option Char}
    (h : Nat.repr n ++ foundText found = Nat.repr m ++ foundText found') :
    n = m ∧ found = found' := by
  have hlist := congrArg String.toList h
  simp only [String.toList_append] at hlist
  obtain ⟨hn, hfound⟩ := (noneFirst_isDigit_foundText found).append_inj
    (noneFirst_isDigit_foundText found') (all_isDigit_repr n) (all_isDigit_repr m) hlist
  exact ⟨Nat.repr_injective (String.toList_inj.1 hn), foundText_inj (String.toList_inj.1 hfound)⟩

end Fault

/-- A defect behind a text: the last characters of the two messages differ. -/
theorem Defect.append_message_inj {s t : String} {d e : Defect} (h : s ++ d.message = t ++ e.message) :
    s = t ∧ d = e := by
  have hlast := congrArg (fun text => text.toList.getLast?) h
  simp only [String.toList_append, List.getLast?_append] at hlast
  cases d with
  | empty => cases e with
    | empty => exact ⟨(String.append_left_inj _).1 h, rfl⟩
    | malformed => exact absurd hlast (by simp [Defect.message])
  | malformed => cases e with
    | empty => exact absurd hlast (by simp [Defect.message])
    | malformed => exact ⟨(String.append_left_inj _).1 h, rfl⟩

/-! ### Messages -/

namespace Fault

/-- The words that messages begin with. -/
def openings : List String :=
  ["Unexpected character: ", "Unexpected end of input at position ",
    "Expected closing parenthesis at position ", "Expected number at position ",
    "Invalid number '"]

/-- The words that the message begins with, others for each kind of fault. -/
def opening : Fault → String
  | .unexpectedCharacter _ _ => "Unexpected character: "
  | .unexpectedEnd _ => "Unexpected end of input at position "
  | .expectedClosing _ _ => "Expected closing parenthesis at position "
  | .expectedNumber _ _ => "Expected number at position "
  | .badLiteral _ _ _ => "Invalid number '"

/-- What the message says behind these words. -/
def particulars : Fault → String
  | .unexpectedCharacter c p => String.singleton c ++ " at position " ++ Nat.repr p
  | .unexpectedEnd p => Nat.repr p
  | .expectedClosing found p | .expectedNumber found p => Nat.repr p ++ foundText found
  | .badLiteral literal p defect =>
    literal ++ "' at position " ++ Nat.repr p ++ ": " ++ defect.message

theorem message_eq (fault : Fault) : fault.message = fault.opening ++ fault.particulars := by
  unfold message
  cases fault <;> simp only [opening, particulars, String.append_assoc]

theorem opening_mem (fault : Fault) : fault.opening ∈ openings := by
  cases fault <;> simp [opening, openings]

/-- The first twelve characters tell these words. -/
theorem append_inj_of_mem_openings {u v s t : String} (hu : u ∈ openings) (hv : v ∈ openings)
    (h : u ++ s = v ++ t) : u = v ∧ s = t := by
  have hlong : ∀ w ∈ openings, 12 ≤ w.toList.length := by decide
  have hdiffer : ∀ w ∈ openings, ∀ w' ∈ openings,
      w.toList.take 12 = w'.toList.take 12 → w = w' := by decide
  have htake := congrArg (fun text => text.toList.take 12) h
  simp only [String.toList_append, List.take_append_of_le_length (hlong u hu),
    List.take_append_of_le_length (hlong v hv)] at htake
  obtain rfl := hdiffer u hu v hv htake
  exact ⟨rfl, (String.append_right_inj u).1 h⟩

/-- **The message tells the fault**: two faults with the same message are of one kind, with the same
character or none, the same position, the same literal and the same defect. -/
theorem message_tells_fault {a b : Fault} : a.message = b.message ↔ a = b := by
  constructor
  · intro h
    rw [message_eq, message_eq] at h
    obtain ⟨hopening, h⟩ := append_inj_of_mem_openings a.opening_mem b.opening_mem h
    cases a with
    | unexpectedCharacter c p => cases b with
      | unexpectedCharacter d q =>
        have hblank : " at position ".toList.getLast? = some ' ' := rfl
        obtain ⟨hcharacter, rfl⟩ :=
          append_repr_inj (noneLast_append_words _ hblank) (noneLast_append_words _ hblank) h
        rw [String.append_left_inj] at hcharacter
        obtain rfl : c = d := by simpa [String.ext_iff] using hcharacter
        rfl
      | _ => simp [opening] at hopening
    | unexpectedEnd p => cases b with
      | unexpectedEnd q => rw [Nat.repr_injective h]
      | _ => simp [opening] at hopening
    | expectedClosing found p => cases b with
      | expectedClosing found' q =>
        obtain ⟨rfl, rfl⟩ := repr_append_foundText_inj h
        rfl
      | _ => simp [opening] at hopening
    | expectedNumber found p => cases b with
      | expectedNumber found' q =>
        obtain ⟨rfl, rfl⟩ := repr_append_foundText_inj h
        rfl
      | _ => simp [opening] at hopening
    | badLiteral literal p defect => cases b with
      | badLiteral literal' q defect' =>
        -- from the end, for the literal may have everything in it that follows it
        have hblank : "' at position ".toList.getLast? = some ' ' := rfl
        obtain ⟨hposition, rfl⟩ := Defect.append_message_inj h
        rw [String.append_left_inj] at hposition
        obtain ⟨hliteral, rfl⟩ :=
          append_repr_inj (noneLast_append_words _ hblank) (noneLast_append_words _ hblank) hposition
        rw [(String.append_left_inj _).1 hliteral]
      | _ => simp [opening] at hopening
  · rintro rfl
    rfl

end Fault

end SumProduct
