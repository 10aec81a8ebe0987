import SumProduct.Proofs.Evaluation
import SumProduct.Proofs.Grammar.Unambiguity

/-!
# The language of evaluation

Evaluation comes to a value exactly on the sentences of the grammar, and the value is that
of the sentence. As the grammar is unambiguous, a text has one value or none by the
grammar alone.

In the text of a sentence a literal stands between characters that belong to no literal:
an operator, a parenthesis, a blank, or the ends of the text. So a derivation never cuts a
run of digits and points in two, although the grammar does not say so.
-/

namespace SumProduct

/-! ### Literals are maximal runs -/

namespace Derivation

/-- `d.HasLiteral u s w`: in the text of the derivation stands the literal `s`, with `u`
before it and `w` after it. -/
inductive HasLiteral : {rule : Rule} → Derivation rule → List Char → List Char → List Char → Prop
  /-- The derivation is the literal. -/
  | literal {s valid} : HasLiteral (.literal s valid) [] s []
  /-- In the parentheses. -/
  | inner {b d a u s w} (h : HasLiteral d u s w) :
    HasLiteral (.parenthesised b d a) ('(' :: (b.text ++ u)) s (w ++ (a.text ++ [')']))
  /-- In the only operand. -/
  | single {op d u s w} (h : HasLiteral d u s w) : HasLiteral (.single op d) u s w
  /-- In the operands on the left. -/
  | left {op d b a right u s w} (h : HasLiteral d u s w) :
    HasLiteral (.chain op d b a right) u s
      (w ++ (b.text ++ op.symbol :: (a.text ++ right.text)))
  /-- In the operand on the right. -/
  | right {op left b a d u s w} (h : HasLiteral d u s w) :
    HasLiteral (.chain op left b a d) (left.text ++ (b.text ++ op.symbol :: (a.text ++ u))) s w

theorem HasLiteral.text_eq {rule : Rule} {d : Derivation rule} {u s w : List Char}
    (h : d.HasLiteral u s w) : d.text = u ++ (s ++ w) := by
  induction h with
  | literal => simp [text]
  | inner _ ih => simp [text, ih]
  | single _ ih => rw [text_single, ih]
  | left _ ih => simp [ih]
  | right _ ih => simp [ih]

end Derivation

/-! ### What stands next to a literal -/

theorem NoneFirst.append {f : Char → Bool} {x y : List Char} (hx : NoneFirst f x)
    (hy : NoneFirst f y) : NoneFirst f (x ++ y) := by
  cases x with
  | nil => exact hy
  | cons c x => exact .cons hx.of_cons

/-- A gap, read backwards, begins with no literal either. -/
theorem NoneFirst.reverse_gap_append {g : Gap} {r : List Char} (h : NoneFirst isLiteralChar r) :
    NoneFirst isLiteralChar (g.text.reverse ++ r) := by
  refine NoneFirst.append (fun c hc => isLiteralChar_of_isBlank ?_) h
  exact List.all_eq_true.1 g.blank c (List.mem_reverse.1 (List.mem_of_head? hc))

/-- No character of a literal stands right before and right after. -/
def Apart (before after : List Char) : Prop :=
  NoneFirst isLiteralChar before.reverse ∧ NoneFirst isLiteralChar after

theorem Derivation.HasLiteral.apart {rule : Rule} {d : Derivation rule} {u s w : List Char}
    (h : d.HasLiteral u s w) : Apart u w := by
  induction h with
  | literal => exact ⟨.nil, .nil⟩
  | inner _ ih =>
    refine ⟨?_, ih.2.append (NoneFirst.gap_append (.cons (by decide)))⟩
    rw [List.reverse_cons, List.reverse_append, List.append_assoc]
    exact ih.1.append (NoneFirst.reverse_gap_append (.cons isLiteralChar_openParen))
  | single _ ih => exact ih
  | @left op _ _ _ _ _ _ _ _ ih =>
    exact ⟨ih.1, ih.2.append (NoneFirst.gap_append (.cons op.symbol_class.2))⟩
  | @right op left b a _ u _ _ _ ih =>
    refine ⟨?_, ih.2⟩
    have hrev : (left.text ++ (b.text ++ op.symbol :: (a.text ++ u))).reverse =
        u.reverse ++ (a.text.reverse ++ op.symbol :: (left.text ++ b.text).reverse) := by simp
    rw [hrev]
    exact ih.1.append (NoneFirst.reverse_gap_append (.cons op.symbol_class.2))

/-- In the text of the sentence stands the literal `s`, with `u` before it and `w` after. -/
def Sentence.HasLiteral (t : Sentence) (u s w : List Char) : Prop :=
  ∃ u' w', t.derivation.HasLiteral u' s w' ∧ u = t.before.text ++ u' ∧ w = w' ++ t.after.text

/-- Every literal of the sentence is a maximal run of digits and points. -/
def Sentence.LiteralsMaximal (t : Sentence) : Prop :=
  ∀ u s w, t.HasLiteral u s w → t.text = u ++ (s ++ w) ∧ Apart u w

/-- **Maximal runs**: the literals of every sentence are. -/
theorem Sentence.literalsMaximal (t : Sentence) : t.LiteralsMaximal := by
  rintro u s w ⟨u', w', h, rfl, rfl⟩
  refine ⟨by simp [Sentence.text, h.text_eq], ?_, ?_⟩
  · rw [List.reverse_append]
    exact h.apart.1.append (by simpa using NoneFirst.reverse_gap_append (g := t.before) .nil)
  · exact h.apart.2.append (by simpa using NoneFirst.gap_append (g := t.after) .nil)

/-! ### Sentences and values -/

/-- A sentence has something else than blanks. -/
theorem Sentence.not_blank (t : Sentence) : t.text.all isBlank = false := by
  obtain ⟨c, rest, h, hc⟩ := t.derivation.exists_text_eq_cons
  have hb : isBlank c = false := t.derivation.noneFirst_isBlank [] c (by rw [h]; rfl)
  simp [Sentence.text, h, hb]

/-- A text is evaluated to a value exactly if it is a sentence of that value. -/
theorem evaluate_eq_ok_iff {s : String} {v : Binary64} :
    evaluate s = .ok v ↔ ∃ t : Sentence, t.text = s.toList ∧ t.value = v := by
  constructor
  · intro h
    cases hb : s.toList.all isBlank with
    | true => exact nomatch (evaluate_of_blank hb).symm.trans h
    | false =>
      obtain ⟨hresult, hend⟩ := Outcome.ended_eq_ok_iff.1 ((evaluate_of_not_blank hb).symm.trans h)
      have hrun := Rule.expression.yields_run (.start s.toList)
      obtain ⟨before, d, after, htext, rfl, -⟩ := (hresult ▸ hrun).spans
      refine ⟨⟨before, d, after⟩, ?_, rfl⟩
      rw [hend, List.append_nil] at htext
      rw [Sentence.text, List.append_assoc]
      exact htext.symm
  · rintro ⟨t, ht, rfl⟩
    obtain ⟨q, es, hq, h⟩ := t.derivation.recognised (.start s.toList) t.before t.after []
      (by simp [Place.start, ← ht, Sentence.text]) (.inl rfl)
    obtain ⟨hresult, rfl, -⟩ := yields_iff_run.1 h
    rw [evaluate_of_not_blank (ht ▸ t.not_blank), Outcome.ended_eq_ok_iff]
    exact ⟨hresult, hq⟩

/-- A text that is evaluated to a value is one sentence and no other. -/
theorem exists_sentence_of_evaluate {s : String} {v : Binary64} (h : evaluate s = .ok v) :
    ∃ t : Sentence, (∀ u : Sentence, u.text = s.toList ↔ u = t) ∧ t.value = v := by
  obtain ⟨t, ht, hv⟩ := evaluate_eq_ok_iff.1 h
  refine ⟨t, fun u => ⟨fun hu => Sentence.eq_of_text_eq (hu.trans ht.symm), ?_⟩, hv⟩
  rintro rfl
  exact ht

/-- **The language and the values**: a text is evaluated to a value exactly if it is a
sentence of that value, whose literals are maximal runs of digits and points; and it is a
sentence in one way at most. -/
theorem evaluate_eq_ok_iff_sentence (s : String) :
    (∀ v : Binary64, evaluate s = .ok v ↔
      ∃ t : Sentence, t.text = s.toList ∧ t.LiteralsMaximal ∧ t.value = v) ∧
    ∀ t u : Sentence, t.text = s.toList → u.text = s.toList → t = u := by
  refine ⟨fun v => evaluate_eq_ok_iff.trans ⟨?_, ?_⟩,
    fun t u ht hu => Sentence.eq_of_text_eq (ht.trans hu.symm)⟩
  · rintro ⟨t, ht, hv⟩
    exact ⟨t, ht, t.literalsMaximal, hv⟩
  · rintro ⟨t, ht, -, hv⟩
    exact ⟨t, ht, hv⟩

end SumProduct
