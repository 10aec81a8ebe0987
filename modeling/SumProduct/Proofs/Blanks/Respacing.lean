import Mathlib.Data.List.Basic
import SumProduct.Proofs.StackMachine.Tokens

/-!
# Blanks between tokens do not count

Two texts with the same characters besides blanks, in which the same digits and points are next
to each other, have the same result (`evaluate_respaced`): the same value, or the same fault up to
its position. The position changes as the text around it does: from the place of a character
that is no blank to the place of the same character in the other text, and from the end to the
end (`SameStation`; there is no other such position, `SameStation.unique`).

Such texts are made of the same tokens (`exists_tokens_of_sameJoints`), and the machine with a
stack answers by the tokens (`Tokens.sameAnswer`).
-/

namespace SumProduct

open StackMachine StackMachine.Machine

/-! ### Stations -/

/-- The positions of the characters that are no blanks, counted from a start on. -/
def markPositions (start : Nat) (text : List Char) : List Nat :=
  text.findIdxs (fun c => !isBlank c) start

/-- The positions of the characters that are no blanks, and of the end. -/
def stations (start : Nat) (text : List Char) : List Nat :=
  markPositions start text ++ [start + text.length]

/-- The positions belong to the same station: each text has as many characters other than
blanks before its own, and one comes next in both, or the end does. -/
def SameStation (n : Nat) (x : List Char) (m : Nat) (y : List Char) (a b : Nat) : Prop :=
  ∃ k : Nat, (stations n x)[k]? = some a ∧ (stations m y)[k]? = some b

theorem length_markPositions (n : Nat) (x : List Char) :
    (markPositions n x).length = (marks x).length := by
  rw [markPositions, List.length_findIdxs, marks, List.countP_eq_length_filter]

theorem markPositions_append (n : Nat) (x y : List Char) :
    markPositions n (x ++ y) = markPositions n x ++ markPositions (n + x.length) y :=
  List.findIdxs_append

theorem markPositions_cons (n : Nat) {c : Char} (hc : isBlank c = false) (x : List Char) :
    markPositions n (c :: x) = n :: markPositions (n + 1) x := by
  simp [markPositions, hc]

theorem markPositions_gap (n : Nat) (g : Gap) : markPositions n g.text = [] := by
  rw [← List.length_eq_zero_iff, length_markPositions, marks_gap, List.length_nil]

theorem stations_append (n : Nat) (x y : List Char) :
    stations n (x ++ y) = markPositions n x ++ stations (n + x.length) y := by
  simp [stations, markPositions_append, Nat.add_assoc]

theorem nodup_stations (n : Nat) (x : List Char) : (stations n x).Nodup := by
  refine List.nodup_append.2 ⟨List.nodup_findIdxs, List.pairwise_singleton _ _, ?_⟩
  rintro a ha b hb rfl
  rw [List.mem_singleton.1 hb] at ha
  exact Nat.lt_irrefl _ (Nat.lt_of_lt_of_eq (List.lt_add_of_mem_findIdxs _ ha) (Nat.add_comm _ _))

namespace SameStation

variable {n m a b : Nat} {u v x y : List Char}

/-- Texts in front do not change stations if they have as many characters besides blanks. -/
theorem append (huv : marks u = marks v)
    (h : SameStation (n + u.length) x (m + v.length) y a b) :
    SameStation n (u ++ x) m (v ++ y) a b := by
  obtain ⟨k, ha, hb⟩ := h
  have hu : (markPositions n u).length = (marks u).length := length_markPositions n u
  have hv : (markPositions m v).length = (marks u).length := by rw [length_markPositions, huv]
  refine ⟨(marks u).length + k, ?_, ?_⟩
  · rw [stations_append, List.getElem?_append_right (by omega), hu, Nat.add_sub_cancel_left, ha]
  · rw [stations_append, List.getElem?_append_right (by omega), hv, Nat.add_sub_cancel_left, hb]

/-- A position has at most one of the same station in the other text. -/
theorem unique {b' : Nat} (h : SameStation n x m y a b) (h' : SameStation n x m y a b') :
    b = b' := by
  obtain ⟨k, ha, hb⟩ := h
  obtain ⟨k', ha', hb'⟩ := h'
  obtain ⟨hk, -⟩ := List.getElem?_eq_some_iff.1 ha
  obtain rfl := (List.getElem?_inj hk (nodup_stations n x)).1 (ha.trans ha'.symm)
  exact Option.some.inj (hb.symm.trans hb')

theorem atEnd : SameStation n [] m [] n m := ⟨0, rfl, rfl⟩

theorem atToken {w : List Char} (hw : IsToken w) (x y : List Char) :
    SameStation n (w ++ x) m (w ++ y) n m := by
  obtain ⟨c, rest, rfl, hc⟩ := hw.exists_eq_cons
  refine ⟨0, ?_, ?_⟩ <;> rw [List.cons_append, stations, markPositions_cons _ hc] <;> rfl

end SameStation

/-! ### The same tokens, the same answer -/

/-- The results are the same, but that a fault is at the same station of the other text. -/
def SameResult (n : Nat) (x : List Char) (m : Nat) (y : List Char)
    (r₁ r₂ : Except Fault Binary64) : Prop :=
  (∀ v, r₁ = .ok v → r₂ = .ok v) ∧
    ∀ fault, r₁ = .error fault →
      ∃ b, SameStation n x m y fault.position b ∧ r₂ = .error (fault.moveTo b)

namespace SameResult

variable {n m : Nat} {u v x y : List Char} {r₁ r₂ : Except Fault Binary64}

theorem append (huv : marks u = marks v)
    (h : SameResult (n + u.length) x (m + v.length) y r₁ r₂) :
    SameResult n (u ++ x) m (v ++ y) r₁ r₂ := by
  refine ⟨h.1, fun fault hf => ?_⟩
  obtain ⟨b, hb, hr⟩ := h.2 fault hf
  exact ⟨b, hb.append huv, hr⟩

theorem ok (value : Binary64) : SameResult n x m y (.ok value) (.ok value) :=
  ⟨fun _ h => h, fun _ h => nomatch h⟩

theorem error {fault : Fault} (h : SameStation n x m y n m) :
    SameResult n x m y (.error (fault.moveTo n)) (.error (fault.moveTo m)) := by
  refine ⟨nofun, fun f hf => ?_⟩
  obtain rfl := Except.error.inj hf
  exact ⟨m, by rwa [Fault.position_moveTo], by rw [Fault.moveTo_moveTo]⟩

end SameResult

/-- **By the tokens**: before texts of the same tokens the machine answers the same. -/
theorem Tokens.sameAnswer {x y : List Char} {ws : List (List Char)} (hx : Tokens x ws)
    (hy : Tokens y ws) (mode : Mode) (stack : List Frame) (n m : Nat) :
    SameResult n x m y (answer ⟨mode, stack, ⟨n, x⟩⟩) (answer ⟨mode, stack, ⟨m, y⟩⟩) := by
  induction hx generalizing y mode stack n m with
  | blanks g =>
    cases hy with
    | blanks h =>
      rw [← List.append_nil g.text, ← List.append_nil h.text, answer_gap _ _ _ g .nil,
        answer_gap _ _ _ h .nil]
      refine SameResult.append (by simp) ?_
      rcases end_cases mode stack with ⟨v, hv⟩ | ⟨fault, hf⟩
      · rw [(hv _).answer_eq, (hv _).answer_eq]
        exact .ok v
      · rw [(hf _).answer_eq, (hf _).answer_eq]
        exact .error .atEnd
  | @token g w x ws hw hx later ih =>
    cases hy with
    | @token h _ y _ _ hy later' =>
      rw [answer_gap _ _ _ g (hw.noneFirst_isBlank x), answer_gap _ _ _ h (hw.noneFirst_isBlank y)]
      refine SameResult.append (by simp) ?_
      rcases token_cases mode stack hw with ⟨mode', stack', hmove⟩ | ⟨fault, hf⟩
      · rw [Steps.answer_eq (.single (hmove _ x hx)), Steps.answer_eq (.single (hmove _ y hy))]
        exact .append rfl (ih later' mode' stack' _ _)
      · rw [(hf _ x hx).answer_eq, (hf _ y hy).answer_eq]
        exact .error (.atToken hw x y)

/-! ### Texts of the same tokens -/

/-- The `k`-th of the characters that are no blanks and the next one stand side by side. -/
def Adjacent (start : Nat) (text : List Char) (k : Nat) : Prop :=
  (markPositions start text)[k + 1]? = (markPositions start text)[k]?.map (· + 1)

instance (start : Nat) (text : List Char) (k : Nat) : Decidable (Adjacent start text k) :=
  inferInstanceAs (Decidable (_ = _))

/-- Where digits and points follow each other besides blanks, they are side by side in both texts
or in neither. -/
def SameJoints (n : Nat) (x : List Char) (m : Nat) (y : List Char) : Prop :=
  ∀ k : Nat, (marks x)[k]?.any isLiteralChar = true → (marks x)[k + 1]?.any isLiteralChar = true →
    (Adjacent n x k ↔ Adjacent m y k)

/-- A text begins with no literal if its first mark is in none, or is not at its start. -/
theorem noneFirst_iff_markPositions {x : List Char} (n : Nat) :
    NoneFirst isLiteralChar x ↔
      ((marks x)[0]?.any isLiteralChar = true → (markPositions n x)[0]? ≠ some n) := by
  cases x with
  | nil => exact iff_of_true .nil nofun
  | cons e x =>
    cases he : isBlank e with
    | true =>
      refine iff_of_true (.cons (isLiteralChar_of_isBlank he)) fun _ hn => ?_
      have hmem : n ∈ markPositions (n + 1) x := by
        rw [markPositions, List.findIdxs_cons, if_neg (by simp [he])] at hn
        exact List.mem_of_getElem? hn
      exact Nat.not_succ_le_self n (List.ge_of_mem_findIdxs n hmem)
    | false =>
      rw [marks_cons he, markPositions_cons n he]
      constructor
      · intro h hl
        exact Bool.noConfusion (h.of_cons.symm.trans hl)
      · intro h
        refine .cons ?_
        cases hl : isLiteralChar e with
        | false => rfl
        | true => exact absurd rfl (h hl)

/-- A character in front of a literal joins it. -/
theorem Tokens.join {x : List Char} {ws : List (List Char)} {c : Char} (h : Tokens x ws) (g : Gap)
    (hc : isLiteralChar c = true) (hx : ¬ NoneFirst isLiteralChar x) :
    ∃ w ws', ws = w :: ws' ∧ Tokens (g.text ++ c :: x) ((c :: w) :: ws') := by
  cases h with
  | blanks g' => exact absurd (by simpa using NoneFirst.gap_append (g := g') .nil) hx
  | @token g' w x ws hw hend later =>
    cases hw with
    | mark hb hl => exact absurd (.gap_append (.cons hl)) hx
    | literal hne hw =>
      rcases g' with ⟨_ | ⟨b, g'⟩, hg⟩
      · have hall : (c :: w).all isLiteralChar = true := by rw [List.all_cons, hc, hw]; rfl
        exact ⟨w, ws, rfl,
          .token g (.literal (List.cons_ne_nil _ _) hall) (fun _ => hend hw) later⟩
      · rw [List.all_cons, Bool.and_eq_true] at hg
        exact absurd (.cons (isLiteralChar_of_isBlank hg.1)) hx

namespace SameJoints

variable {n m : Nat} {x y : List Char} {c : Char} {g h : Gap}

theorem tail (hc : isBlank c = false) (hj : SameJoints n (g.text ++ c :: x) m (h.text ++ c :: y)) :
    SameJoints (n + g.text.length + 1) x (m + h.text.length + 1) y := by
  intro k
  have hk := hj (k + 1)
  simpa [Adjacent, markPositions_append, markPositions_gap, markPositions_cons _ hc,
    marks_cons hc] using hk

/-- A literal that ends at a character in the one text ends there in the other. -/
theorem noneFirst_iff (hc : isBlank c = false) (hl : isLiteralChar c = true)
    (hm : marks x = marks y) (hj : SameJoints n (g.text ++ c :: x) m (h.text ++ c :: y)) :
    NoneFirst isLiteralChar x ↔ NoneFirst isLiteralChar y := by
  rw [noneFirst_iff_markPositions (n + g.text.length + 1),
    noneFirst_iff_markPositions (m + h.text.length + 1), ← hm]
  refine forall_congr' fun hd => not_congr ?_
  have hk := hj 0
  simpa [Adjacent, markPositions_append, markPositions_gap, markPositions_cons _ hc,
    marks_cons hc, hl, hd] using hk

end SameJoints

/-- Texts of the same marks and joints are made of the same tokens. -/
theorem exists_tokens_of_sameJoints {n m : Nat} {x y : List Char} (hm : marks x = marks y)
    (hj : SameJoints n x m y) : ∃ ws, Tokens x ws ∧ Tokens y ws := by
  induction hr : marks x generalizing x y n m with
  | nil =>
    exact ⟨[], .blanks ⟨x, all_isBlank_iff.2 hr⟩, .blanks ⟨y, all_isBlank_iff.2 (hm ▸ hr)⟩⟩
  | cons c r ih =>
    obtain ⟨g, x, rfl, hb, rfl⟩ := exists_gap_of_marks hr
    obtain ⟨h, y, rfl, -, hy⟩ := exists_gap_of_marks (hm ▸ hr)
    obtain ⟨ws, hxs, hys⟩ := ih hy.symm (hj.tail hb) rfl
    cases hl : isLiteralChar c with
    | false =>
      exact ⟨_, .token g (.mark hb hl) (complete_mark hl x) hxs,
        .token h (.mark hb hl) (complete_mark hl y) hys⟩
    | true =>
      have hends := hj.noneFirst_iff hb hl hy.symm
      by_cases hnone : NoneFirst isLiteralChar x
      · have hw : IsToken [c] := .literal (List.cons_ne_nil _ _) (by simp [hl])
        exact ⟨_, .token g hw (fun _ => hnone) hxs, .token h hw (fun _ => hends.1 hnone) hys⟩
      · obtain ⟨w, ws', hws, hxs'⟩ := hxs.join g hl hnone
        obtain ⟨_, _, hws', hys'⟩ := hys.join h hl (fun hn => hnone (hends.2 hn))
        obtain ⟨rfl, rfl⟩ := List.cons.inj (hws.symm.trans hws')
        exact ⟨_, hxs', hys'⟩

/-! ### Evaluation -/

/-- The texts have the same characters besides blanks, and the same digits and points are side
by side. -/
structure Respaced (s t : String) : Prop where
  /-- The characters other than blanks are the same. -/
  withoutBlanks_eq : withoutBlanks s = withoutBlanks t
  /-- Digits and points are side by side in both texts or in neither. -/
  sameJoints : SameJoints 0 s.toList 0 t.toList

/-- **Blanks between tokens do not count**: texts that differ only in them have the same value,
or the same fault, at the same station of the text. -/
theorem evaluate_respaced {s t : String} (h : Respaced s t) :
    (∀ v, evaluate s = .ok v → evaluate t = .ok v) ∧
      ∀ fault, evaluate s = .error fault →
        ∃ n, SameStation 0 s.toList 0 t.toList fault.position n ∧
          evaluate t = .error (fault.moveTo n) := by
  have hm : marks s.toList = marks t.toList := by
    rw [← toList_withoutBlanks, ← toList_withoutBlanks, h.withoutBlanks_eq]
  cases hb : s.toList.all isBlank with
  | true =>
    have hbt : t.toList.all isBlank = true := all_isBlank_congr hm ▸ hb
    have hend : SameResult 0 (s.toList ++ []) 0 (t.toList ++ [])
        (.error (.expectedNumber none (0 + s.toList.length)))
        (.error (.expectedNumber none (0 + t.toList.length))) :=
      .append hm (@SameResult.error _ _ [] [] (.expectedNumber none 0) .atEnd)
    rw [List.append_nil, List.append_nil, Nat.zero_add, Nat.zero_add] at hend
    rw [evaluate_of_blank hb, evaluate_of_blank hbt]
    exact hend
  | false =>
    have hbt : t.toList.all isBlank = false := all_isBlank_congr hm ▸ hb
    rw [evaluate_eq_answer hb, evaluate_eq_answer hbt]
    obtain ⟨ws, hs, ht⟩ := exists_tokens_of_sameJoints hm h.sameJoints
    exact hs.sameAnswer ht (.operand .empty) [] 0 0

theorem evaluate_respaced_two_operands :
    Respaced "1.5*(2 3" " 1.5 *\t(2  3 " ∧
      evaluate "1.5*(2 3" = .error (.unexpectedCharacter '3' 7) ∧
      ∃ n, SameStation 0 "1.5*(2 3".toList 0 " 1.5 *\t(2  3 ".toList 7 n ∧
        evaluate " 1.5 *\t(2  3 " = .error (.unexpectedCharacter '3' n) := by
  have hjoints : ∀ k < 7, (marks "1.5*(2 3".toList)[k]?.any isLiteralChar = true →
      (marks "1.5*(2 3".toList)[k + 1]?.any isLiteralChar = true →
        (Adjacent 0 "1.5*(2 3".toList k ↔ Adjacent 0 " 1.5 *\t(2  3 ".toList k) := by decide
  have h : Respaced "1.5*(2 3" " 1.5 *\t(2  3 " := by
    refine ⟨rfl, fun k hk => hjoints k (Nat.lt_of_not_le fun hle => ?_) hk⟩
    rw [List.getElem?_eq_none hle] at hk
    exact nomatch hk
  have hfault : evaluate "1.5*(2 3" = .error (.unexpectedCharacter '3' 7) := rfl
  exact ⟨h, hfault, (evaluate_respaced h).2 _ hfault⟩

end SumProduct
