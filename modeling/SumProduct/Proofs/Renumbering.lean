import Mathlib.Data.List.Forall2
import Mathlib.Data.List.SplitBy
import SumProduct.Proofs.Evaluation
import SumProduct.Proofs.StackMachine.Tokens
import SumProduct.Proofs.Tokens

/-!
# Numbers do not steer

Which numbers stand in a text has no say in how it is read. If literals that denote numbers are
exchanged for others, the two texts both have a value or both have a fault, and the faults are the
same, at the same piece of the text (`numbers_do_not_steer`). A value that is infinite or not a
number is like any other, and so is a literal of another length, but that what comes behind it
stands elsewhere.

The machine with a stack reads both texts side by side, a piece at a time. The two machines stay
`Alike`: they expect the same and have as many parentheses open, whatever the numbers are that they
have computed.
-/

namespace SumProduct

/-!
### The pieces of a text

A text falls into pieces: the maximal runs of digits and points, and the other characters, one by
one. Blanks are pieces too. So nothing of the text is lost (`flatten_pieces`), other than with
`Tokens`, and a piece can be exchanged and the text put together again.

What is known of the pieces of a text is what the reading of one needs: each is a piece indeed, and
a run of digits and points is not followed by another (`cut_pieces`).
-/

section Pieces

/-- The runs of digits and points of a text, and its other characters one by one. -/
def pieces (text : List Char) : List (List Char) :=
  text.splitBy fun c d => isLiteralChar c && isLiteralChar d

/-- Nothing of the text is lost. -/
theorem flatten_pieces (text : List Char) : (pieces text).flatten = text :=
  List.flatten_splitBy _ text

/-- What texts are cut into. -/
inductive IsPiece : List Char → Prop
  /-- A character that belongs to no literal. -/
  | other {c} (hl : isLiteralChar c = false) : IsPiece [c]
  /-- A run of digits and points. -/
  | literal {w} (hne : w ≠ []) (hw : w.all isLiteralChar = true) : IsPiece w

theorem IsPiece.exists_eq_cons {w : List Char} (h : IsPiece w) : ∃ c rest, w = c :: rest := by
  cases h with
  | other _ => exact ⟨_, _, rfl⟩
  | literal hne _ => exact List.exists_cons_of_ne_nil hne

/-- The pieces can stand one after the other: no two runs are next to each other. -/
inductive Cut : List (List Char) → Prop
  /-- There is no piece. -/
  | nil : Cut []
  /-- A piece, and what follows it. -/
  | piece {w ws} (hw : IsPiece w) (hend : Complete w ws.flatten) (later : Cut ws) : Cut (w :: ws)

/-- Characters of which each joins the next are digits and points, if there are two. -/
theorem all_isLiteralChar_of_isChain {c d : Char} {w : List Char}
    (h : (c :: d :: w).IsChain fun c d => (isLiteralChar c && isLiteralChar d) = true) :
    (c :: d :: w).all isLiteralChar = true := by
  induction w generalizing c d with
  | nil => simpa using h
  | cons e w ih =>
    obtain ⟨hcd, hrest⟩ := List.isChain_cons_cons.1 h
    have hc : isLiteralChar c = true := (Bool.and_eq_true_iff.1 hcd).1
    rw [List.all_cons, hc, ih hrest]
    rfl

theorem IsPiece.of_isChain {w : List Char} (hne : w ≠ [])
    (h : w.IsChain fun c d => (isLiteralChar c && isLiteralChar d) = true) : IsPiece w := by
  obtain ⟨c, w, rfl⟩ := List.exists_cons_of_ne_nil hne
  cases w with
  | cons d w => exact .literal hne (all_isLiteralChar_of_isChain h)
  | nil =>
    cases hl : isLiteralChar c with
    | false => exact .other hl
    | true => exact .literal hne (by simp [hl])

/-- **A text is cut** into its pieces. -/
theorem cut_pieces (text : List Char) : Cut (pieces text) := by
  have hnil : [] ∉ pieces text := List.nil_notMem_splitBy _ text
  have hrun : ∀ w ∈ pieces text, IsPiece w := fun w hw =>
    .of_isChain (ne_of_mem_of_not_mem hw hnil) (List.isChain_of_mem_splitBy hw)
  have hend := List.isChain_getLast_head_splitBy
    (fun c d => isLiteralChar c && isLiteralChar d) text
  change (pieces text).IsChain _ at hend
  generalize pieces text = ws at hnil hrun hend
  induction ws with
  | nil => exact .nil
  | cons w ws ih =>
    refine .piece (hrun w List.mem_cons_self) ?_ (ih (fun h => hnil (List.mem_cons_of_mem w h))
      (fun v hv => hrun v (List.mem_cons_of_mem w hv)) hend.tail)
    cases ws with
    | nil => exact fun _ => .nil
    | cons v ws =>
      intro hw
      obtain ⟨hne, hne', hlast⟩ := (List.isChain_cons_cons.1 hend).1
      obtain ⟨d, v, rfl⟩ := List.exists_cons_of_ne_nil hne'
      rw [List.all_eq_true.1 hw _ (List.getLast_mem hne), Bool.true_and] at hlast
      exact .cons hlast

end Pieces

open StackMachine StackMachine.Machine

/-! ### Texts with other numbers -/

/-- The piece is the same, or both are literals that denote numbers. -/
def Replaced (w v : List Char) : Prop := w = v ∨ Literal.IsValid w ∧ Literal.IsValid v

instance (w v : List Char) : Decidable (Replaced w v) := inferInstanceAs (Decidable (_ ∨ _))

/-- Only literals are exchanged, and for literals. -/
theorem Replaced.all_isLiteralChar_eq {w v : List Char} (h : Replaced w v) :
    w.all isLiteralChar = v.all isLiteralChar := by
  rcases h with rfl | ⟨hw, hv⟩
  · rfl
  · rw [hw.1, hv.1]

/-- A literal is not blank. -/
theorem Literal.IsValid.all_isBlank_eq {w : List Char} (h : IsValid w) :
    w.all isBlank = false := by
  obtain ⟨c, rest, rfl, hc⟩ := h.exists_eq_cons
  rw [List.all_cons, isBlank_of_isLiteralChar hc, Bool.false_and]

/-- Texts with other numbers are as blank as before. -/
theorem all_isBlank_eq_of_replaced {ws vs : List (List Char)} (h : List.Forall₂ Replaced ws vs) :
    ws.flatten.all isBlank = vs.flatten.all isBlank := by
  induction h with
  | nil => rfl
  | @cons w v ws vs hwv _ ih =>
    rw [List.flatten_cons, List.flatten_cons, List.all_append, List.all_append, ih]
    rcases hwv with rfl | ⟨hw, hv⟩
    · rfl
    · rw [hw.all_isBlank_eq, hv.all_isBlank_eq]

/-- A text with other numbers begins with a literal only if the text does. -/
theorem NoneFirst.of_replaced {ws vs : List (List Char)} (hcut : Cut ws)
    (h : List.Forall₂ Replaced ws vs) (hws : NoneFirst isLiteralChar ws.flatten) :
    NoneFirst isLiteralChar vs.flatten := by
  cases h with
  | nil => exact .nil
  | @cons w v ws vs hwv _ =>
    cases hcut with
    | piece hw _ _ =>
      obtain ⟨c, rest, rfl⟩ := hw.exists_eq_cons
      rcases hwv with rfl | ⟨hvalid, -⟩
      · exact .cons hws.of_cons
      · have hc : isLiteralChar c = true := List.all_eq_true.1 hvalid.1 c List.mem_cons_self
        exact Bool.noConfusion (hws.of_cons.symm.trans hc)

/-! ### The same fault -/

/-- Where a piece starts, or where the text ends if it has no more pieces. -/
def startOf (n : Nat) (ws : List (List Char)) (k : Nat) : Nat := n + (ws.take k).flatten.length

theorem startOf_cons (n : Nat) (w : List Char) (ws : List (List Char)) (k : Nat) :
    startOf n (w :: ws) (k + 1) = startOf (n + w.length) ws k := by
  simp [startOf, Nat.add_assoc]

theorem startOf_end (n : Nat) {ws : List (List Char)} {k : Nat} (h : ws.length ≤ k) :
    startOf n ws k = n + ws.flatten.length := by
  rw [startOf, List.take_of_length_le h]

/-- The faults are the same but for literals that have been exchanged: one is at the position
`n` and at the piece that is given first, the other at `m` and at the second piece. A text that has
no piece there ends there. -/
inductive SameFault (n m : Nat) : Option (List Char) → Option (List Char) → Fault → Fault → Prop
  /-- The first character of the piece is unexpected; it is another one only if the piece is. -/
  | unexpectedCharacter {c w d v} (h : Replaced (c :: w) (d :: v)) :
    SameFault n m (some (c :: w)) (some (d :: v))
      (.unexpectedCharacter c n) (.unexpectedCharacter d m)
  /-- A character is there and no number. -/
  | expectedNumber {c} : SameFault n m (some [c]) (some [c])
      (.expectedNumber (some c) n) (.expectedNumber (some c) m)
  /-- The literal denotes no number. -/
  | badLiteral {w defect} : SameFault n m (some w) (some w)
      (.badLiteral (String.ofList w) n defect) (.badLiteral (String.ofList w) m defect)
  /-- The text ends where an operand is expected. -/
  | unexpectedEnd : SameFault n m none none (.unexpectedEnd n) (.unexpectedEnd m)
  /-- A parenthesis is open at the end. -/
  | expectedClosing : SameFault n m none none (.expectedClosing none n) (.expectedClosing none m)
  /-- The text is blank. -/
  | blank : SameFault n m none none (.expectedNumber none n) (.expectedNumber none m)

/-- Both results are values, or both are faults, at the same piece. -/
def SameVerdict (n : Nat) (ws : List (List Char)) (m : Nat) (vs : List (List Char))
    (r₁ r₂ : Except Fault Binary64) : Prop :=
  (∃ v₁ v₂, r₁ = .ok v₁ ∧ r₂ = .ok v₂) ∨
    ∃ k f₁ f₂, r₁ = .error f₁ ∧ r₂ = .error f₂ ∧
      SameFault (startOf n ws k) (startOf m vs k) ws[k]? vs[k]? f₁ f₂

/-- Pieces in front change nothing. -/
theorem SameVerdict.cons {n m : Nat} {w v : List Char} {ws vs : List (List Char)}
    {r₁ r₂ : Except Fault Binary64}
    (h : SameVerdict (n + w.length) ws (m + v.length) vs r₁ r₂) :
    SameVerdict n (w :: ws) m (v :: vs) r₁ r₂ := by
  rcases h with hok | ⟨k, f₁, f₂, h₁, h₂, hf⟩
  · exact .inl hok
  · refine .inr ⟨k + 1, f₁, f₂, h₁, h₂, ?_⟩
    rw [startOf_cons, startOf_cons]
    exact hf

/-! ### Two machines side by side -/

/-- The machines expect the same, and have as many parentheses open. -/
inductive Alike : Machine → Machine → Prop
  /-- Both expect an operand. -/
  | operand {f₁ f₂ stack₁ stack₂ p₁ p₂} (h : stack₁.length = stack₂.length) :
    Alike ⟨.operand f₁, stack₁, p₁⟩ ⟨.operand f₂, stack₂, p₂⟩
  /-- Both expect an operator. -/
  | operator {s₁ q₁ s₂ q₂ stack₁ stack₂ p₁ p₂} (h : stack₁.length = stack₂.length) :
    Alike ⟨.operator s₁ q₁, stack₁, p₁⟩ ⟨.operator s₂ q₂, stack₂, p₂⟩

/-- The machines do the same at the pieces `w` and `v`: both get behind them, to the places `p₁`
and `p₂`, and stay alike, or both halt with the same fault. -/
inductive ReadAlike (w v : List Char) (p₁ p₂ : Place) (m₁ m₂ : Machine) : Prop
  /-- Both move. -/
  | moves {m₁' m₂'} (alike : Alike m₁' m₂') (hp₁ : m₁'.place = p₁) (hp₂ : m₂'.place = p₂)
    (h₁ : Moves m₁ m₁') (h₂ : Moves m₂ m₂')
  /-- Both halt. -/
  | halts {f₁ f₂} (same : SameFault m₁.place.position m₂.place.position (some w) (some v) f₁ f₂)
    (h₁ : Halts m₁ (.error f₁)) (h₂ : Halts m₂ (.error f₂))

namespace Alike

variable {mode₁ mode₂ : Mode} {stack₁ stack₂ : List Frame} {n m : Nat} {x y : List Char}

/-- At literals that denote numbers, the machines do the same. -/
theorem readAlike_valid {w v : List Char}
    (h : Alike ⟨mode₁, stack₁, ⟨n, w ++ x⟩⟩ ⟨mode₂, stack₂, ⟨m, v ++ y⟩⟩)
    (hw : Literal.IsValid w) (hv : Literal.IsValid v) (hx : NoneFirst isLiteralChar x)
    (hy : NoneFirst isLiteralChar y) :
    ReadAlike w v ⟨n + w.length, x⟩ ⟨m + v.length, y⟩ ⟨mode₁, stack₁, ⟨n, w ++ x⟩⟩
      ⟨mode₂, stack₂, ⟨m, v ++ y⟩⟩ := by
  obtain ⟨c, w, rfl, hc⟩ := hw.exists_eq_cons
  obtain ⟨d, v, rfl, hd⟩ := hv.exists_eq_cons
  cases h with
  | operator h =>
    exact .halts (.unexpectedCharacter (.inr ⟨hw, hv⟩)) (halts_literalChar hc _ _ _ n _)
      (halts_literalChar hd _ _ _ m _)
  | operand h =>
    exact .moves (.operator h) rfl rfl
      (moves_literal (List.cons_ne_nil c w) hw.1 (Literal.value_eq_ok_iff.2 ⟨hw, rfl⟩) hx _ _ n)
      (moves_literal (List.cons_ne_nil d v) hv.1 (Literal.value_eq_ok_iff.2 ⟨hv, rfl⟩) hy _ _ m)

/-- At the same run of digits and points, the machines do the same. -/
theorem readAlike_literal {w : List Char}
    (h : Alike ⟨mode₁, stack₁, ⟨n, w ++ x⟩⟩ ⟨mode₂, stack₂, ⟨m, w ++ y⟩⟩) (hne : w ≠ [])
    (hw : w.all isLiteralChar = true) (hx : NoneFirst isLiteralChar x)
    (hy : NoneFirst isLiteralChar y) :
    ReadAlike w w ⟨n + w.length, x⟩ ⟨m + w.length, y⟩ ⟨mode₁, stack₁, ⟨n, w ++ x⟩⟩
      ⟨mode₂, stack₂, ⟨m, w ++ y⟩⟩ := by
  cases h with
  | operator h =>
    obtain ⟨c, w, rfl⟩ := List.exists_cons_of_ne_nil hne
    have hc := List.all_eq_true.1 hw c List.mem_cons_self
    exact .halts (.unexpectedCharacter (.inl rfl)) (halts_literalChar hc _ _ _ n _)
      (halts_literalChar hc _ _ _ m _)
  | operand h =>
    cases hv : Literal.value w with
    | ok value =>
      exact .moves (.operator h) rfl rfl (moves_literal hne hw hv hx _ _ n)
        (moves_literal hne hw hv hy _ _ m)
    | error defect =>
      exact .halts .badLiteral (halts_badLiteral hne hw hv hx _ _ n)
        (halts_badLiteral hne hw hv hy _ _ m)

/-- At the same character outside of literals, the machines do the same. -/
theorem readAlike_other {c : Char}
    (h : Alike ⟨mode₁, stack₁, ⟨n, c :: x⟩⟩ ⟨mode₂, stack₂, ⟨m, c :: y⟩⟩)
    (hl : isLiteralChar c = false) :
    ReadAlike [c] [c] ⟨n + 1, x⟩ ⟨m + 1, y⟩ ⟨mode₁, stack₁, ⟨n, c :: x⟩⟩
      ⟨mode₂, stack₂, ⟨m, c :: y⟩⟩ := by
  cases hb : isBlank c with
  | true =>
    cases h with
    | operand h => exact .moves (.operand h) rfl rfl (.blank rfl hb) (.blank rfl hb)
    | operator h => exact .moves (.operator h) rfl rfl (.blank rfl hb) (.blank rfl hb)
  | false =>
    cases h with
    | operand h =>
      by_cases hp : c = '('
      · subst hp
        refine .moves (.operand ?_) rfl rfl (.opens rfl) (.opens rfl)
        exact congrArg Nat.succ h
      · exact .halts .expectedNumber (.noNumber rfl hb hp hl) (.noNumber rfl hb hp hl)
    | operator h =>
      by_cases h₁ : c = '*'
      · subst h₁
        exact .moves (.operand h) rfl rfl (.times rfl) (.times rfl)
      by_cases h₂ : c = '+'
      · subst h₂
        exact .moves (.operand h) rfl rfl (.plus rfl) (.plus rfl)
      -- an operand in parentheses ends in both texts, or there is no parenthesis to close in either
      by_cases h₃ : c = ')' ∧ stack₁ ≠ []
      · obtain ⟨rfl, hne⟩ := h₃
        obtain ⟨frame₁, stack₁, rfl⟩ := List.exists_cons_of_ne_nil hne
        obtain ⟨frame₂, stack₂, rfl⟩ := List.exists_of_length_succ _ h.symm
        exact .moves (.operator (Nat.succ.inj h)) rfl rfl (.closes rfl) (.closes rfl)
      · have hnil₁ : c = ')' → stack₁ = [] := fun hc => not_not.1 fun hne => h₃ ⟨hc, hne⟩
        have hnil₂ : c = ')' → stack₂ = [] := fun hc =>
          List.eq_nil_of_length_eq_zero (h ▸ congrArg List.length (hnil₁ hc))
        exact .halts (.unexpectedCharacter (.inl rfl)) (.unexpected rfl hb h₁ h₂ hnil₁)
          (.unexpected rfl hb h₁ h₂ hnil₂)

/-- **At a piece** that is the same or exchanged for another, machines that are alike do the
same. -/
theorem readAlike {w v : List Char}
    (h : Alike ⟨mode₁, stack₁, ⟨n, w ++ x⟩⟩ ⟨mode₂, stack₂, ⟨m, v ++ y⟩⟩) (hw : IsPiece w)
    (hwv : Replaced w v) (hx : Complete w x) (hy : Complete v y) :
    ReadAlike w v ⟨n + w.length, x⟩ ⟨m + v.length, y⟩ ⟨mode₁, stack₁, ⟨n, w ++ x⟩⟩
      ⟨mode₂, stack₂, ⟨m, v ++ y⟩⟩ := by
  rcases hwv with rfl | ⟨hw, hv⟩
  · cases hw with
    | other hl => exact h.readAlike_other hl
    | literal hne hw => exact h.readAlike_literal hne hw (hx hw) (hy hw)
  · exact h.readAlike_valid hw hv (hx hw.1) (hy hv.1)

/-- **At the end** of their texts, machines that are alike do the same. -/
theorem sameVerdict_end (h : Alike ⟨mode₁, stack₁, ⟨n, []⟩⟩ ⟨mode₂, stack₂, ⟨m, []⟩⟩) :
    SameVerdict n [] m [] (answer ⟨mode₁, stack₁, ⟨n, []⟩⟩) (answer ⟨mode₂, stack₂, ⟨m, []⟩⟩) := by
  cases h with
  | operand h =>
    rw [(Halts.unexpectedEnd rfl).answer_eq, (Halts.unexpectedEnd rfl).answer_eq]
    exact .inr ⟨0, _, _, rfl, rfl, .unexpectedEnd⟩
  | operator h =>
    cases stack₁ with
    | nil =>
      obtain rfl := List.eq_nil_of_length_eq_zero h.symm
      rw [(Halts.value rfl).answer_eq, (Halts.value rfl).answer_eq]
      exact .inl ⟨_, _, rfl, rfl⟩
    | cons frame₁ stack₁ =>
      obtain ⟨frame₂, stack₂, rfl⟩ := List.exists_of_length_succ _ h.symm
      rw [(Halts.unclosed rfl).answer_eq, (Halts.unclosed rfl).answer_eq]
      exact .inr ⟨0, _, _, rfl, rfl, .expectedClosing⟩

end Alike

/-- **Piece by piece**: machines that are alike come to the same verdict on texts that differ only
in the numbers. -/
theorem Cut.sameVerdict {ws vs : List (List Char)} (hcut : Cut ws)
    (hr : List.Forall₂ Replaced ws vs) {mode₁ mode₂ : Mode} {stack₁ stack₂ : List Frame} {n m : Nat}
    (h : Alike ⟨mode₁, stack₁, ⟨n, ws.flatten⟩⟩ ⟨mode₂, stack₂, ⟨m, vs.flatten⟩⟩) :
    SameVerdict n ws m vs (answer ⟨mode₁, stack₁, ⟨n, ws.flatten⟩⟩)
      (answer ⟨mode₂, stack₂, ⟨m, vs.flatten⟩⟩) := by
  -- on the pieces of the first text; what is behind them in the second is no longer the same text
  induction hcut generalizing vs mode₁ mode₂ stack₁ stack₂ n m with
  | nil =>
    cases hr
    exact h.sameVerdict_end
  | @piece w ws hw hend later ih =>
    cases hr with
    | @cons _ v _ vs hwv hr =>
      have hend' : Complete v vs.flatten := fun hv =>
        .of_replaced later hr (hend (hwv.all_isLiteralChar_eq.trans hv))
      rw [List.flatten_cons, List.flatten_cons] at h ⊢
      cases h.readAlike hw hwv hend hend' with
      | @moves m₁ m₂ alike hp₁ hp₂ h₁ h₂ =>
        rcases m₁ with ⟨mode₁', stack₁', p₁⟩
        rcases m₂ with ⟨mode₂', stack₂', p₂⟩
        obtain rfl : p₁ = _ := hp₁
        obtain rfl : p₂ = _ := hp₂
        rw [Steps.answer_eq (.single h₁), Steps.answer_eq (.single h₂)]
        exact .cons (ih hr alike)
      | halts same h₁ h₂ =>
        rw [h₁.answer_eq, h₂.answer_eq]
        exact .inr ⟨0, _, _, rfl, rfl, same⟩

/-! ### Evaluation -/

/-- **Numbers do not steer**: if literals of a text that denote numbers are exchanged for others,
both texts have a value or both have the same fault, at the same piece or at the end. The character
that it names is the same, or is the first of a literal and of the one in its place. -/
theorem numbers_do_not_steer {s : String} {ws : List (List Char)}
    (h : List.Forall₂ Replaced (pieces s.toList) ws) :
    (∃ v v', evaluate s = .ok v ∧ evaluate (String.ofList ws.flatten) = .ok v') ∨
      ∃ k fault fault', evaluate s = .error fault ∧
        evaluate (String.ofList ws.flatten) = .error fault' ∧
        SameFault (startOf 0 (pieces s.toList) k) (startOf 0 ws k) (pieces s.toList)[k]? ws[k]?
          fault fault' := by
  have hs : s.toList = (pieces s.toList).flatten := (flatten_pieces _).symm
  have ht : (String.ofList ws.flatten).toList = ws.flatten := String.toList_ofList
  have hblank := all_isBlank_eq_of_replaced h
  rw [← hs] at hblank
  cases hb : s.toList.all isBlank with
  | true =>
    rw [evaluate_of_blank hb, evaluate_of_blank (ht.symm ▸ hblank ▸ hb), ht]
    refine .inr ⟨ws.length, _, _, rfl, rfl, ?_⟩
    have hpieces : (pieces s.toList).length ≤ ws.length := h.length_eq.le
    rw [List.getElem?_eq_none hpieces, List.getElem?_eq_none (Nat.le_refl _), startOf_end 0 hpieces,
      startOf_end 0 (Nat.le_refl _), ← hs, Nat.zero_add, Nat.zero_add]
    exact .blank
  | false =>
    rw [evaluate_eq_answer hb, evaluate_eq_answer (ht.symm ▸ hblank ▸ hb), ht]
    have hverdict := (cut_pieces s.toList).sameVerdict h
      (@Alike.operand .empty .empty [] [] ⟨0, _⟩ ⟨0, _⟩ rfl)
    rw [← hs] at hverdict
    exact hverdict

theorem numbers_do_not_steer_second_operand :
    let ws := ["(".toList, "10".toList, "*".toList, ".5".toList, " ".toList, "8".toList]
    List.Forall₂ Replaced (pieces "(1*2. 34".toList) ws ∧
      evaluate "(1*2. 34" = .error (.unexpectedCharacter '3' 6) ∧
      ∃ k fault, evaluate "(10*.5 8" = .error fault ∧
        SameFault (startOf 0 (pieces "(1*2. 34".toList) k) (startOf 0 ws k)
          (pieces "(1*2. 34".toList)[k]? ws[k]? (.unexpectedCharacter '3' 6) fault := by
  intro ws
  have h : List.Forall₂ Replaced (pieces "(1*2. 34".toList) ws := by decide
  have hfault : evaluate "(1*2. 34" = .error (.unexpectedCharacter '3' 6) := rfl
  refine ⟨h, hfault, ?_⟩
  rcases numbers_do_not_steer h with ⟨v, -, hv, -⟩ | ⟨k, f, f', hf, hf', hsame⟩
  · exact nomatch hv.symm.trans hfault
  · obtain rfl := Except.error.inj (hf.symm.trans hfault)
    exact ⟨k, f', hf', hsame⟩

end SumProduct
