import SumProduct.Proofs.StackMachine.Agreement
import SumProduct.Proofs.StackMachine.Splicing

/-!
# Faults are found at the earliest place

A fault is found as soon as no continuation makes an expression of what has been read,
and not before. Up to its place the text can be completed (`viable_before_fault`). With the
character that the fault names (`fault_at_character`), or with the literal and something
that ends it (`fault_at_literal`), it cannot, and the fault is the same whatever follows.

The proof is about the machine with a stack. The machine finds the fault in a configuration
in which it has passed the text before the fault and has looked at no more than the
character or the literal there, so that other texts can be put in the place of the rest
(`Reaches`).

A lone point at the end of a text is a bad literal although a digit after it would make it
a good one. A bad literal is final only before the end or before something else than digits
and points, and up to its end the text may well be viable.
-/

namespace SumProduct

open StackMachine StackMachine.Machine

/-! ### The beginnings of a text -/

/-- The text up to a position. -/
def upTo (s : String) (n : Nat) : String := String.ofList (s.toList.take n)

/-- A text that some continuation makes an expression. -/
def Viable (s : String) : Prop := ∃ t v, evaluate (s ++ t) = .ok v

/-- A text up to the end of a part of it, and another text. -/
theorem upTo_append {s : String} {u w x : List Char} (h : s.toList = u ++ (w ++ x)) (t : String) :
    upTo s (u.length + w.length) ++ t = String.ofList (u ++ (w ++ t.toList)) := by
  rw [← List.append_assoc] at h ⊢
  have htake : s.toList.take (u.length + w.length) = u ++ w := by
    rw [h, ← List.length_append, List.take_left]
  apply String.ext
  rw [String.toList_append, upTo, htake, String.toList_ofList, String.toList_ofList]

/-! ### The machine before a fault -/

/-- The machine gets to a configuration behind a text, before any other text that is left
unless a literal goes on in it. -/
def Reaches (u : List Char) (m : Machine) : Prop :=
  m.place.position = u.length ∧
    ∀ r, Seam m.place.rest r → Steps (start (u ++ r)) (m.withRest r)

theorem Reaches.of_steps {text : List Char} {m : Machine} (h : Steps (start text) m) :
    ∃ u, text = u ++ m.place.rest ∧ Reaches u m := by
  obtain ⟨u, ⟨hu, hpos⟩, hsteps⟩ := h.splice
  exact ⟨u, hu, hpos.trans (Nat.zero_add _), hsteps⟩

/-- At the end of a text the machine has passed all of it. -/
theorem Reaches.of_steps_end {text : List Char} {m : Machine} (h : Steps (start text) m)
    (hend : m.place.peek? = none) : Reaches text m := by
  obtain ⟨u, hu, hreach⟩ := Reaches.of_steps h
  rw [Place.rest_eq_nil hend, List.append_nil] at hu
  exact hu ▸ hreach

/-- In a blank text the machine gets to the end and still expects an operand. -/
theorem steps_of_blank {text : List Char} (h : text.all isBlank = true) :
    Steps (start text) ⟨.operand .empty, [], ⟨text.length, []⟩⟩ := by
  have hskip := Place.skipBlanks_append 0 h .nil
  rw [List.append_nil, Nat.zero_add] at hskip
  exact hskip ▸ steps_skipBlanks (.operand .empty) [] (.start text)

/-- The machine answers for a text with something else than blanks. -/
theorem evaluate_ofList {text : List Char} (h : text.all isBlank = false) :
    evaluate (String.ofList text) = (start text).answer := by
  rw [evaluate_eq_answer (by rwa [String.toList_ofList]), String.toList_ofList]

/-- A value that the machine answers is the value of the text. -/
theorem evaluate_eq_ok_of_answer {text : List Char} {v : Binary64}
    (h : (start text).answer = .ok v) : evaluate (String.ofList text) = .ok v := by
  cases hb : text.all isBlank with
  | false => rw [evaluate_ofList hb, h]
  | true =>
    have hend := (steps_of_blank hb).answer_eq.trans (Halts.unexpectedEnd rfl).answer_eq
    exact nomatch h.symm.trans hend

/-- What has been passed on the way to a configuration can be completed. -/
theorem Reaches.viable {u : List Char} {m : Machine} (h : Reaches u m) :
    Viable (String.ofList u) := by
  obtain ⟨r, hr, v, hv⟩ := m.exists_completion
  refine ⟨String.ofList r, v, ?_⟩
  rw [← String.ofList_append]
  exact evaluate_eq_ok_of_answer ((h.2 r fun _ => hr).answer_eq.trans hv)

/-- A fault at a part of the text that is not blank stays the same with another text
behind this part, if the machine still halts there. -/
theorem Reaches.evaluate_upTo {s t : String} {u w x : List Char} {m : Machine} {fault : Fault}
    (h : Reaches u m) (hu : s.toList = u ++ (w ++ x)) (hw : w.all isBlank = false)
    (hr : Seam m.place.rest (w ++ t.toList))
    (hhalt : Halts (m.withRest (w ++ t.toList)) (.error fault)) :
    evaluate (upTo s (u.length + w.length) ++ t) = .error fault := by
  have hb : (u ++ (w ++ t.toList)).all isBlank = false := by
    rw [List.all_append, List.all_append, hw, Bool.false_and, Bool.and_false]
  rw [upTo_append hu, evaluate_ofList hb]
  exact answer_eq_iff.2 ⟨_, h.2 _ hr, hhalt⟩

/-- A fault of a text that is not blank is found in a configuration behind what comes
before it. -/
theorem exists_reaches_of_fault {s : String} {fault : Fault} (h : evaluate s = .error fault)
    (hb : s.toList.all isBlank = false) :
    ∃ u m, s.toList = u ++ m.place.rest ∧ fault.position = u.length ∧ Reaches u m ∧
      Halts m (.error fault) := by
  obtain ⟨m, hsteps, hhalt⟩ := answer_eq_iff.1 ((evaluate_eq_answer hb).symm.trans h)
  obtain ⟨u, hu, hreach⟩ := Reaches.of_steps hsteps
  exact ⟨u, m, hu, hhalt.position_eq.trans hreach.1, hreach, hhalt⟩

/-! ### Before the fault -/

/-- Up to the place of a fault a text is viable. -/
theorem viable_before_fault {s : String} {fault : Fault} (h : evaluate s = .error fault) :
    Viable (upTo s fault.position) := by
  cases hb : s.toList.all isBlank with
  | false =>
    obtain ⟨u, m, hu, hpos, hreach, -⟩ := exists_reaches_of_fault h hb
    rw [hpos, upTo, hu, List.take_left]
    exact hreach.viable
  | true =>
    obtain rfl := Except.error.inj ((evaluate_of_blank hb).symm.trans h)
    obtain ⟨u, hu, hreach⟩ := Reaches.of_steps (steps_of_blank hb)
    rw [List.append_nil] at hu
    rw [Fault.position, upTo, List.take_length, hu]
    exact hreach.viable

/-- A fault of the syntax without a character is found at the end of the text. -/
theorem position_eq_length {s : String} {fault : Fault} (h : evaluate s = .error fault)
    (hs : fault.IsSyntax) (hc : fault.character? = none) : fault.position = s.length := by
  cases hb : s.toList.all isBlank with
  | false =>
    obtain ⟨u, m, hu, hpos, -, hhalt⟩ := exists_reaches_of_fault h hb
    rw [hhalt.rest_eq_nil hs hc, List.append_nil] at hu
    rw [hpos, ← hu, String.length_toList]
  | true =>
    obtain rfl := Except.error.inj ((evaluate_of_blank hb).symm.trans h)
    exact String.length_toList

/-! ### What follows a fault does not count -/

/-- A fault with a character is found at it, and is the fault of every text that is the
same up to this character. -/
theorem fault_at_character {s : String} {fault : Fault} {c : Char}
    (h : evaluate s = .error fault) (hc : fault.character? = some c) :
    s.toList[fault.position]? = some c ∧
      ∀ t, evaluate (upTo s (fault.position + 1) ++ t) = .error fault := by
  cases hb : s.toList.all isBlank with
  | true =>
    obtain rfl := Except.error.inj ((evaluate_of_blank hb).symm.trans h)
    exact nomatch hc
  | false =>
    obtain ⟨u, m, hu, hpos, hreach, hhalt⟩ := exists_reaches_of_fault h hb
    obtain ⟨hblank, ⟨x, hx⟩, hhalts⟩ := hhalt.splice_character hc
    rw [hx] at hu
    refine ⟨by simp [hpos, hu], fun t => ?_⟩
    rw [hpos]
    refine hreach.evaluate_upTo (w := [c]) hu (by simp [hblank]) ?_ (hhalts t.toList)
    rw [hx]
    exact .cons c x t.toList

/-- A bad literal stands at its place, and is the fault of every text that is the same up
to the end of the literal and does not go on with it. -/
theorem fault_at_literal {s literal : String} {n : Nat} {defect : Defect}
    (h : evaluate s = .error (.badLiteral literal n defect)) :
    (s.toList.drop n).take literal.length = literal.toList ∧
      ∀ t : String, NoneFirst isLiteralChar t.toList →
        evaluate (upTo s (n + literal.length) ++ t) = .error (.badLiteral literal n defect) := by
  cases hb : s.toList.all isBlank with
  | true => exact nomatch (evaluate_of_blank hb).symm.trans h
  | false =>
    obtain ⟨u, m, hu, hpos, hreach, hhalt⟩ := exists_reaches_of_fault h hb
    obtain ⟨⟨x, hx⟩, ⟨c, hhead, hc⟩, hhalts⟩ := hhalt.splice_literal
    obtain rfl : n = u.length := hpos
    have hw : literal.toList.all isBlank = false :=
      List.all_eq_false.2 ⟨c, List.mem_of_head? hhead, by simp [Literal.isBlank_of_isLiteralChar hc]⟩
    rw [hx] at hu
    rw [← String.length_toList]
    refine ⟨by rw [hu, List.drop_left, List.take_left], fun t ht => ?_⟩
    refine hreach.evaluate_upTo hu hw ?_ (hhalts t.toList ht)
    rw [hx]
    exact Seam.append (fun _ => ht) literal.toList

/-- A bad literal at the end of a text may yet become a good one. -/
example : evaluate "." = .error (.badLiteral "." 0 .malformed) ∧ Viable "." :=
  ⟨rfl, "5", _, rfl⟩

/-! ### The earliest place -/

/-- **The earliest place**: a text can be completed up to the place of its fault. It cannot be
with the character that the fault names, which stands there, and not with a bad literal,
which stands there too, and its end. A fault of the syntax that names no character is at the
end of the text. -/
theorem fault_is_earliest {s : String} {fault : Fault} (h : evaluate s = .error fault) :
    Viable (upTo s fault.position) ∧
      (∀ c, fault.character? = some c →
        fault.position < s.length ∧ s.toList[fault.position]? = some c ∧
          ¬ Viable (upTo s (fault.position + 1))) ∧
      (fault.IsSyntax → fault.character? = none → fault.position = s.length) ∧
      ∀ literal n defect, fault = .badLiteral literal n defect →
        (s.toList.drop n).take literal.length = literal.toList ∧
          ∀ t : String, NoneFirst isLiteralChar t.toList →
            ∀ v, evaluate (upTo s (n + literal.length) ++ t) ≠ .ok v := by
  refine ⟨viable_before_fault h, fun c hc => ?_, position_eq_length h, ?_⟩
  · obtain ⟨hget, hfault⟩ := fault_at_character h hc
    obtain ⟨hlt, -⟩ := List.getElem?_eq_some_iff.1 hget
    refine ⟨String.length_toList ▸ hlt, hget, ?_⟩
    rintro ⟨t, v, hv⟩
    exact nomatch (hfault t).symm.trans hv
  · rintro literal n defect rfl
    obtain ⟨hliteral, hfault⟩ := fault_at_literal h
    refine ⟨hliteral, fun t ht v hv => ?_⟩
    exact nomatch (hfault t ht).symm.trans hv

theorem fault_is_earliest_at_dollar :
    evaluate "(1+$)" = .error (.expectedNumber (some '$') 3) ∧
      Viable (upTo "(1+$)" 3) ∧ ¬ Viable (upTo "(1+$)" 4) := by
  have h : evaluate "(1+$)" = .error (.expectedNumber (some '$') 3) := rfl
  obtain ⟨hviable, hcharacter, -⟩ := fault_is_earliest h
  exact ⟨h, hviable, (hcharacter '$' rfl).2.2⟩

/-! ### The first fault -/

/-- **The first fault wins**: behind the character that a fault names any text may follow,
and behind a bad literal any text that does not go on with it, and the fault stays the
same. -/
theorem first_fault_wins {s : String} {fault : Fault} (h : evaluate s = .error fault) :
    (∀ c, fault.character? = some c →
      ∀ t, evaluate (upTo s (fault.position + 1) ++ t) = .error fault) ∧
      ∀ literal n defect, fault = .badLiteral literal n defect →
        ∀ t : String, NoneFirst isLiteralChar t.toList →
          evaluate (upTo s (n + literal.length) ++ t) = .error fault := by
  constructor
  · intro c hc
    exact (fault_at_character h hc).2
  · rintro literal n defect rfl
    exact (fault_at_literal h).2

theorem first_fault_wins_after_points :
    evaluate "2*1.2.3+4" = .error (.badLiteral "1.2.3" 2 .malformed) ∧
      evaluate (upTo "2*1.2.3+4" 7 ++ ")") = .error (.badLiteral "1.2.3" 2 .malformed) := by
  have h : evaluate "2*1.2.3+4" = .error (.badLiteral "1.2.3" 2 .malformed) := rfl
  exact ⟨h, (first_fault_wins h).2 _ _ _ rfl ")" (.cons (by decide))⟩

end SumProduct
