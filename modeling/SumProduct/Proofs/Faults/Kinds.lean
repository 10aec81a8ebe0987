import SumProduct.Proofs.StackMachine.Agreement
import SumProduct.Proofs.StackMachine.Parentheses
import SumProduct.Proofs.Tokens

/-!
# What comes before a fault tells its kind

Whether an operand or an operator is due shows in the text that has been read, by its last character
that is no blank: an operand is due at the start, behind an opening parenthesis and behind an
operator, and it has been read behind a closing parenthesis, a digit or a point. So the text before
a fault of the syntax tells its kind, and which characters it can name
(`kind_told_by_what_precedes`).

The machine with a stack carries the proof. `Machine.ToldBy` says that the mode of the machine is
told by what the machine has passed, and that a literal which ends what it has passed has been
passed as a whole. A move keeps this (`Moves.toldBy`), and so do all the moves from the start of a
text to the place of a fault (`Steps.toldBy`).
-/

namespace SumProduct

/-! ### The last mark -/

/-- The last character of a text that is no blank. -/
def lastMark? (text : List Char) : Option Char := (marks text).getLast?

@[simp] theorem lastMark?_nil : lastMark? [] = none := rfl

theorem lastMark?_append (x y : List Char) :
    lastMark? (x ++ y) = (lastMark? y).or (lastMark? x) := by
  simp [lastMark?, List.getLast?_append]

theorem lastMark?_append_blank {c : Char} (h : isBlank c = true) (x : List Char) :
    lastMark? (x ++ [c]) = lastMark? x := by
  simp [lastMark?, marks, h]

theorem lastMark?_append_mark {c : Char} (h : isBlank c = false) (x : List Char) :
    lastMark? (x ++ [c]) = some c := by
  simp [lastMark?, marks, h]

/-- The last character is the last mark, or it is a blank. -/
theorem isBlank_or_lastMark?_eq {x : List Char} {c : Char} (h : x.getLast? = some c) :
    isBlank c = true ∨ lastMark? x = some c := by
  obtain ⟨y, rfl⟩ := List.getLast?_eq_some_iff.1 h
  by_cases hc : isBlank c = true
  · exact .inl hc
  · exact .inr (lastMark?_append_mark (by simpa using hc) y)

/-- A literal ends with a mark, a digit or a point. -/
theorem lastMark?_append_literal {w : List Char} (hne : w ≠ []) (hw : w.all isLiteralChar = true)
    (x : List Char) : ∃ c, lastMark? (x ++ w) = some c ∧ isLiteralChar c = true := by
  refine ⟨w.getLast hne, ?_, List.all_eq_true.1 hw _ (List.getLast_mem hne)⟩
  rw [lastMark?_append, lastMark?, (IsToken.literal hne hw).marks_eq,
    List.getLast?_eq_some_getLast hne, Option.some_or]

/-- Behind this mark, or without one before it, an operand is due. -/
def AwaitsOperand (last : Option Char) : Prop :=
  last = none ∨ last = some '(' ∨ last = some '+' ∨ last = some '*'

/-- With this mark an operand ends: a closing parenthesis, a digit or a point. -/
def EndsOperand (last : Option Char) : Prop :=
  ∃ c, last = some c ∧ (c = ')' ∨ isLiteralChar c = true)

/-- No mark does both. -/
theorem EndsOperand.not_awaitsOperand {last : Option Char} (h : EndsOperand last) :
    ¬ AwaitsOperand last := by
  obtain ⟨c, rfl, hc⟩ := h
  intro hawaits
  have hmark : c = '(' ∨ c = '+' ∨ c = '*' := by simpa [AwaitsOperand] using hawaits
  rcases hmark with rfl | rfl | rfl <;> simp [isLiteralChar, Char.isDigit] at hc

/-! ### What has been passed tells the mode -/

namespace StackMachine

open Relation

/-- The mode is the one that the last mark tells. -/
def Mode.ToldBy (last : Option Char) : Mode → Prop
  | .operand _ => AwaitsOperand last
  | .operator _ _ => EndsOperand last

namespace Machine

/-- What the machine has passed tells its mode, and ends within no literal. -/
structure ToldBy (passed : List Char) (m : Machine) : Prop where
  /-- The last mark tells the mode. -/
  mode : m.mode.ToldBy (lastMark? passed)
  /-- A literal at the end does not go on before the machine. -/
  whole : ∀ c, passed.getLast? = some c → isLiteralChar c = true →
    NoneFirst isLiteralChar m.place.rest

theorem toldBy_start (text : List Char) : (start text).ToldBy [] where
  mode := .inl rfl
  whole := fun _ h => nomatch h

/-- Behind a character that belongs to no literal only the mode has to be told. -/
theorem ToldBy.behind {passed : List Char} {c : Char} {m : Machine} (hc : isLiteralChar c = false)
    (hm : m.mode.ToldBy (lastMark? (passed ++ [c]))) : m.ToldBy (passed ++ [c]) where
  mode := hm
  whole := by
    intro d hd hl
    rw [List.getLast?_concat, Option.some.injEq] at hd
    rw [hd, hl] at hc
    exact nomatch hc

/-- **A move** leads to a machine whose mode is told by what has been passed with it. -/
theorem Moves.toldBy {m m' : Machine} (h : Moves m m') :
    ∃ v, m.place.Passes v m'.place ∧ ∀ u, m.ToldBy u → m'.ToldBy (u ++ v) := by
  cases h with
  | @blank mode stack p c h hc =>
    refine ⟨[c], .advance h, fun u hu => .behind (isLiteralChar_of_isBlank hc) ?_⟩
    rw [lastMark?_append_blank hc]
    exact hu.mode
  | opens h =>
    refine ⟨['('], .advance h, fun u _ => .behind (by decide) ?_⟩
    rw [lastMark?_append_mark (by decide)]
    exact .inr (.inl rfl)
  | @literal frame stack p c value h hl hv =>
    refine ⟨p.literal, .skipLiteral p, fun u _ => ⟨?_, fun _ _ _ => ?_⟩⟩
    · have hne := Place.literal_ne_nil h hl
      obtain ⟨d, hd, hdl⟩ := lastMark?_append_literal hne List.all_takeWhile u
      exact ⟨d, hd, .inr hdl⟩
    · exact .dropWhile
  | times h =>
    refine ⟨['*'], .advance h, fun u _ => .behind (by decide) ?_⟩
    rw [lastMark?_append_mark (by decide)]
    exact .inr (.inr (.inr rfl))
  | plus h =>
    refine ⟨['+'], .advance h, fun u _ => .behind (by decide) ?_⟩
    rw [lastMark?_append_mark (by decide)]
    exact .inr (.inr (.inl rfl))
  | closes h =>
    refine ⟨[')'], .advance h, fun u _ => .behind (by decide) ?_⟩
    rw [lastMark?_append_mark (by decide)]
    exact ⟨_, rfl, .inl rfl⟩

/-- **Any number of moves** do. -/
theorem Steps.toldBy {m m' : Machine} (h : Steps m m') :
    ∃ v, m.place.Passes v m'.place ∧ ∀ u, m.ToldBy u → m'.ToldBy (u ++ v) := by
  induction h with
  | refl =>
    refine ⟨[], .refl _, fun u hu => ?_⟩
    rw [List.append_nil]
    exact hu
  | tail _ hmove ih =>
    obtain ⟨v, hv, hsteps⟩ := ih
    obtain ⟨w, hw, hmoves⟩ := hmove.toldBy
    refine ⟨v ++ w, hv.append hw, fun u hu => ?_⟩
    rw [← List.append_assoc]
    exact hmoves _ (hsteps u hu)

end Machine

end StackMachine

/-! ### What the mode tells of a fault -/

/-- The fault of an operand that is missing at a position, by what is there instead. -/
def Fault.LacksOperandAt (n : Nat) (next : Option Char) (fault : Fault) : Prop :=
  match next with
  | none => fault = .unexpectedEnd n
  | some c => fault = .expectedNumber (some c) n ∧
      isBlank c = false ∧ isLiteralChar c = false ∧ c ≠ '('

/-- The fault of what may not follow an operand at a position, by what is there. -/
def Fault.FollowsOperandAt (n : Nat) (next : Option Char) (fault : Fault) : Prop :=
  match next with
  | none => fault = .expectedClosing none n
  | some c => fault = .unexpectedCharacter c n ∧ isBlank c = false ∧ c ≠ '+' ∧ c ≠ '*'

section KindsAt

variable {n : Nat} {next : Option Char} {c : Char}

theorem Fault.lacksOperandAt_unexpectedEnd (h : next = none) :
    (unexpectedEnd n).LacksOperandAt n next := by
  subst h
  rfl

theorem Fault.lacksOperandAt_expectedNumber (h : next = some c) (hb : isBlank c = false)
    (hl : isLiteralChar c = false) (hp : c ≠ '(') :
    (expectedNumber (some c) n).LacksOperandAt n next := by
  subst h
  exact ⟨rfl, hb, hl, hp⟩

theorem Fault.followsOperandAt_expectedClosing (h : next = none) :
    (expectedClosing none n).FollowsOperandAt n next := by
  subst h
  rfl

theorem Fault.followsOperandAt_unexpectedCharacter (h : next = some c) (hb : isBlank c = false)
    (hplus : c ≠ '+') (htimes : c ≠ '*') : (unexpectedCharacter c n).FollowsOperandAt n next := by
  subst h
  exact ⟨rfl, hb, hplus, htimes⟩

end KindsAt

open StackMachine StackMachine.Machine

/-- Where the machine halts with a fault of the syntax, the mark that tells its mode tells the kind
of the fault. -/
theorem Fault.told_of_halts {m : Machine} {fault : Fault} {last : Option Char}
    (h : Halts m (.error fault)) (hs : fault.IsSyntax) (hm : m.mode.ToldBy last) :
    AwaitsOperand last ∧ fault.LacksOperandAt m.place.position m.place.peek? ∨
      EndsOperand last ∧ fault.FollowsOperandAt m.place.position m.place.peek? := by
  cases h with
  | unexpectedEnd h => exact .inl ⟨hm, lacksOperandAt_unexpectedEnd h⟩
  | noNumber h hb hp hl => exact .inl ⟨hm, lacksOperandAt_expectedNumber h hb hl hp⟩
  | badLiteral _ _ _ => exact hs.elim
  | unclosed h => exact .inr ⟨hm, followsOperandAt_expectedClosing h⟩
  | unexpected h hb htimes hplus _ =>
    exact .inr ⟨hm, followsOperandAt_unexpectedCharacter h hb hplus htimes⟩

/-- What is unexpected stands behind an operand, and a closing parenthesis closes nothing. -/
theorem StackMachine.Machine.Halts.unexpectedCharacter {m : Machine} {c : Char} {n : Nat}
    (h : Halts m (.error (.unexpectedCharacter c n))) :
    (∃ sum product, m.mode = .operator sum product) ∧ m.place.peek? = some c ∧
      (c = ')' → m.stack = []) := by
  cases h with
  | unexpected h _ _ _ hstack => exact ⟨⟨_, _, rfl⟩, h, hstack⟩

/-- A fault of a text that is not blank is found by a machine whose mode is told by the text before
the fault. -/
theorem exists_toldBy_of_fault {s : String} {fault : Fault} (h : evaluate s = .error fault)
    (hb : s.toList.all isBlank = false) :
    ∃ passed m, s.toList = passed ++ m.place.rest ∧ fault.position = passed.length ∧
      Steps (start s.toList) m ∧ m.ToldBy passed ∧ Halts m (.error fault) := by
  obtain ⟨m, hsteps, hhalt⟩ := answer_eq_iff.1 ((evaluate_eq_answer hb).symm.trans h)
  obtain ⟨passed, ⟨htext, hposition⟩, htold⟩ := hsteps.toldBy
  refine ⟨passed, m, htext, ?_, hsteps, htold [] (toldBy_start s.toList), hhalt⟩
  rw [hhalt.position_eq, hposition]
  exact Nat.zero_add _

/-- A digit or point that may not follow an operand stands behind a blank or a parenthesis, for a
literal in front of it would not have ended. -/
theorem StackMachine.Machine.ToldBy.exists_getLast? {passed : List Char} {m : Machine} {c : Char}
    (hm : m.ToldBy passed) (hlast : EndsOperand (lastMark? passed)) (hc : m.place.peek? = some c)
    (hl : isLiteralChar c = true) :
    ∃ d, passed.getLast? = some d ∧ (isBlank d = true ∨ d = ')') := by
  obtain ⟨e, he, hmark⟩ := hlast
  have hne : passed ≠ [] := by
    rintro rfl
    exact nomatch he
  refine ⟨_, List.getLast?_eq_some_getLast hne, ?_⟩
  rcases isBlank_or_lastMark?_eq (List.getLast?_eq_some_getLast hne) with hblank | hd
  · exact .inl hblank
  · rw [hd, Option.some.injEq] at he
    rw [← he] at hmark
    refine .inr (hmark.resolve_right fun hliteral => ?_)
    have hnone := hm.whole _ (List.getLast?_eq_some_getLast hne) hliteral c hc
    rw [hl] at hnone
    exact nomatch hnone

/-! ### Evaluation -/

/-- **What comes before a fault tells its kind**, in a text that is not blank. Where an operand is
due by the last mark before it, the fault is a character that starts none, or the end of the text;
where an operand ends with this mark, it is a character that may not follow one, or the end of the
text with a parenthesis open. There is no other last mark. A closing parenthesis is unexpected only
if the ones before it are in balance, and a digit or a point only behind a blank or a closing
parenthesis. -/
theorem kind_told_by_what_precedes {s : String} {fault : Fault} (h : evaluate s = .error fault)
    (hs : fault.IsSyntax) (hb : s.toList.all isBlank = false) :
    let p := fault.position
    let before := s.toList.take p
    p ≤ s.length ∧
      (AwaitsOperand (lastMark? before) ∨ EndsOperand (lastMark? before)) ∧
      (AwaitsOperand (lastMark? before) → fault.LacksOperandAt p s.toList[p]?) ∧
      (EndsOperand (lastMark? before) → fault.FollowsOperandAt p s.toList[p]?) ∧
      (fault = .unexpectedCharacter ')' p → before.count '(' = before.count ')') ∧
      ∀ c, fault = .unexpectedCharacter c p → isLiteralChar c = true →
        0 < p ∧ ∃ d, s.toList[p - 1]? = some d ∧ (isBlank d = true ∨ d = ')') := by
  obtain ⟨passed, m, htext, hposition, hsteps, htold, hhalt⟩ := exists_toldBy_of_fault h hb
  have hbefore : s.toList.take fault.position = passed := by rw [htext, hposition, List.take_left]
  have hnext : s.toList[fault.position]? = m.place.peek? := by
    rw [htext, hposition, List.getElem?_append_right (Nat.le_refl _), Nat.sub_self]
    exact List.head?_eq_getElem?.symm
  have hplace : m.place.position = fault.position := hhalt.position_eq.symm
  have htold' := Fault.told_of_halts hhalt hs htold.mode
  rw [hplace, ← hnext] at htold'
  dsimp only
  rw [hbefore]
  refine ⟨?_, ?_, ?_, ?_, ?_, ?_⟩
  · rw [hposition, ← String.length_toList, htext, List.length_append]
    exact Nat.le_add_right _ _
  · exact htold'.imp And.left And.left
  · intro hawaits
    exact (htold'.resolve_right fun hends => hends.1.not_awaitsOperand hawaits).2
  · intro hends
    exact (htold'.resolve_left fun hawaits => hends.not_awaitsOperand hawaits.1).2
  · intro hfault
    rw [hfault] at hhalt
    have hheight := balance_of_passed hsteps htext
    rw [hhalt.unexpectedCharacter.2.2 rfl, balance] at hheight
    simp only [List.length_nil] at hheight
    omega
  · intro c hfault hl
    rw [hfault] at hhalt
    obtain ⟨⟨sum, product, hmode⟩, hc, -⟩ := hhalt.unexpectedCharacter
    have hlast : m.mode.ToldBy (lastMark? passed) := htold.mode
    rw [hmode] at hlast
    obtain ⟨d, hd, hmark⟩ := htold.exists_getLast? hlast hc hl
    have hpos : 0 < passed.length := by
      apply List.length_pos_iff.2
      rintro rfl
      simp at hd
    refine ⟨hposition ▸ hpos, d, ?_, hmark⟩
    rw [hposition, htext, List.getElem?_append_left (by omega), ← List.getLast?_eq_getElem?]
    exact hd

theorem kind_told_by_what_precedes_split_literal :
    evaluate "(1 2)" = .error (.unexpectedCharacter '2' 3) ∧
      EndsOperand (lastMark? "(1 ".toList) ∧
      ∃ d, "(1 2)".toList[2]? = some d ∧ (isBlank d = true ∨ d = ')') := by
  have h : evaluate "(1 2)" = .error (.unexpectedCharacter '2' 3) := rfl
  obtain ⟨-, -, -, -, -, hdigit⟩ := kind_told_by_what_precedes h trivial (by decide)
  exact ⟨h, ⟨'1', rfl, .inr rfl⟩, (hdigit '2' rfl rfl).2⟩

end SumProduct
