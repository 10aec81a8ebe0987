import SumProduct.Proofs.Grammar.Recognition
import SumProduct.Proofs.Walk
import SumProduct.Session

/-!
# Sessions stay in their text

Whatever steps a session takes, in whatever order and whether they succeed or fail, its reading
is one of the same text and its position lies in the text. No step goes back, but for the one
that comes back to a reading put aside, and a rule that comes to a value goes forward
(`session_stays_in_text`).

What one step keeps is `Session.InText.step`; by induction on the steps the same holds after any
number of them.
-/

namespace SumProduct

/-! ### Literals as bytes -/

/-- The characters of literals are one byte each. -/
theorem utf8Size_of_isLiteralChar {c : Char} (h : isLiteralChar c = true) : c.utf8Size = 1 := by
  rw [Char.utf8Size_eq_one_iff]
  simp only [isLiteralChar, Char.isDigit, Bool.or_eq_true, Bool.and_eq_true, decide_eq_true_eq,
    beq_iff_eq] at h
  rcases h with ⟨-, h⟩ | rfl
  · exact Nat.le_trans h (by decide)
  · decide

/-- A literal has as many bytes as characters. -/
theorem utf8ByteSize_of_literal {s : List Char} (h : s.all isLiteralChar = true) :
    (String.ofList s).utf8ByteSize = (String.ofList s).length := by
  induction s with
  | nil => rfl
  | cons c s ih =>
    rw [List.all_cons, Bool.and_eq_true] at h
    rw [← List.singleton_append, String.ofList_append, String.utf8ByteSize_append,
      String.length_append, ih h.2, ← String.singleton_eq_ofList, String.utf8ByteSize_singleton,
      utf8Size_of_isLiteralChar h.1, String.length_singleton]

/-! ### Readings -/

/-- A reading of the text at one of its positions. -/
structure Reading.InText (text : List Char) (r : Reading) : Prop where
  /-- The text is this one. -/
  text_eq : r.text = text
  /-- The position is not beyond its end. -/
  position_le : r.position ≤ text.length

namespace Reading.InText

variable {text : List Char} {r : Reading} {q : Place}

/-- Places that reading leads to lie in the text. -/
theorem position_le_of_leadsTo (h : r.InText text) (hq : r.place.LeadsTo q) :
    q.position ≤ text.length := by
  obtain ⟨rfl, hr⟩ := h
  have hsum := hq.position_add_length
  simp only [Reading.place, List.length_drop] at hsum
  omega

theorem moveTo (h : r.InText text) (hq : r.place.LeadsTo q) : (r.moveTo q).InText text :=
  ⟨h.text_eq, h.position_le_of_leadsTo hq⟩

end Reading.InText

/-- At a position of the text a literal can be looked for. -/
theorem Reading.scan?_eq {r : Reading} (h : r.position ≤ r.text.length) :
    r.scan? = some (.ofLiteral r.place) := by
  rw [scan?, Place.at?, if_pos h]
  rfl

theorem Reading.walks_run (r : Reading) (rule : Rule) :
    Walks r.place (r.run rule).trace.events (r.run rule).place :=
  rule.place_task r.place ▸ (rule.yields_run r.place).walks

/-- A rule that comes to a value goes forward. -/
theorem Reading.position_lt_of_ok {r : Reading} {rule : Rule} {v : Binary64}
    (h : (r.run rule).result = .ok v) : r.position < (r.run rule).place.position := by
  obtain ⟨before, d, after, htext, -, -⟩ := (h ▸ rule.yields_run r.place).spans
  obtain ⟨c, rest, hd, -⟩ := d.exists_text_eq_cons
  have hleads : r.place.LeadsTo (r.run rule).place := rule.leadsTo_run r.place
  have hsum := hleads.position_add_length
  -- the text of the derivation has been passed, and it is not empty
  have hlt : (r.run rule).place.rest.length < r.place.rest.length := by
    have hlength := congrArg List.length htext
    simp only [hd, List.length_append, List.length_cons] at hlength
    exact Nat.lt_of_lt_of_eq (by simp only [Reading.run]; omega) hlength.symm
  have hposition : r.place.position = r.position := rfl
  omega

/-! ### Steps -/

/-- What a step, with its answer, does to a reading of the text. -/
structure Step.IsSafe (text : List Char) (step : Step) (before : Reading) (answer : Answer)
    (after : Reading) : Prop where
  /-- The reading stays in the text. -/
  inText : after.InText text
  /-- Nothing goes back but coming back to a copy. -/
  forward : step ≠ .restore → before.position ≤ after.position
  /-- Where a factor is entered, which is where literals are looked for, the scan is in range. -/
  scans : ∀ rule n, step = .run rule → .entered .factor n ∈ (before.run rule).trace.events →
    (⟨text, n⟩ : Reading).scan? = some (.ofLiteral (Reading.place ⟨text, n⟩))
  /-- To move on by the bytes of a literal is to move on by its characters. -/
  bytes : ∀ rule literal n, step = .run rule →
    .scanned literal n ∈ (before.run rule).trace.events → literal.utf8ByteSize = literal.length
  /-- A rule that comes to a value goes forward. -/
  progress : ∀ rule v, step = .run rule → answer = .result (.ok v) →
    before.position < after.position

/-- All readings of a session are in the text. -/
structure Session.InText (text : List Char) (s : Session) : Prop where
  /-- The one worked on is. -/
  current : s.current.InText text
  /-- Those put aside are. -/
  saved : ∀ r ∈ s.saved, r.InText text

namespace Session

variable {text : List Char} {s : Session}

theorem inText_ofString (s : String) : (ofString s).InText s.toList :=
  ⟨⟨rfl, Nat.zero_le _⟩, fun _ h => nomatch h⟩

/-- **A step** keeps a session in its text. -/
theorem InText.step (h : s.InText text) (step : Step) : (s.step step).2.InText text := by
  obtain ⟨hcurrent, hsaved⟩ := h
  cases step with
  | peek | position | evaluate | inspect => exact ⟨hcurrent, hsaved⟩
  | advance => exact ⟨hcurrent.moveTo (.advance _), hsaved⟩
  | skipBlanks => exact ⟨hcurrent.moveTo (.skipBlanks _), hsaved⟩
  | run rule => exact ⟨hcurrent.moveTo (rule.leadsTo_run s.current.place), hsaved⟩
  | save => exact ⟨hcurrent, List.forall_mem_cons.2 ⟨hcurrent, hsaved⟩⟩
  | restore =>
    rcases s with ⟨current, _ | ⟨r, saved⟩⟩
    · exact ⟨hcurrent, hsaved⟩
    · exact ⟨hsaved r List.mem_cons_self, fun r' hr => hsaved r' (List.mem_cons_of_mem _ hr)⟩

theorem position_le_step (s : Session) {step : Step} (h : step ≠ .restore) :
    s.current.position ≤ (s.step step).2.current.position := by
  cases step with
  | peek | position | evaluate | inspect | save => exact Nat.le_refl _
  | advance => exact (Place.LeadsTo.advance s.current.place).position_le
  | skipBlanks => exact (Place.LeadsTo.skipBlanks s.current.place).position_le
  | run rule => exact (rule.leadsTo_run s.current.place).position_le
  | restore => exact absurd rfl h

theorem InText.isSafe (h : s.InText text) (step : Step) :
    step.IsSafe text s.current (s.step step).1 (s.step step).2.current where
  inText := (h.step step).current
  forward := s.position_le_step
  scans := by
    rintro rule n - hn
    obtain ⟨place, hplace, -, rfl⟩ := (s.current.walks_run rule).exists_happensAt hn
    exact Reading.scan?_eq (h.current.position_le_of_leadsTo hplace)
  bytes := by
    rintro rule literal n - hn
    obtain ⟨place, -, -, -, rfl⟩ := (s.current.walks_run rule).exists_happensAt hn
    exact utf8ByteSize_of_literal List.all_takeWhile
  progress := by
    rintro rule v rfl hv
    exact Reading.position_lt_of_ok (Answer.result.inj hv)

/-! ### Runs -/

/-- The session after some steps. -/
def after (s : Session) (done : List Step) : Session :=
  done.foldl (fun s step => (s.step step).2) s

/-- The last of some steps is done in the session after the others. -/
theorem steps_concat (s : Session) (done : List Step) (step : Step) :
    s.steps (done ++ [step]) = s.steps done ++ [(s.after done).step step] := by
  induction done generalizing s with
  | nil => rfl
  | cons first done ih => exact congrArg _ (ih _)

/-- **Any number of steps** keeps a session in its text. -/
theorem InText.after (h : s.InText text) (done : List Step) : (s.after done).InText text := by
  induction done generalizing s with
  | nil => exact h
  | cons first done ih => exact ih (h.step first)

end Session

/-- **Sessions stay in their text**: after any steps every further step has an answer, leaves
the reading at a position of the same text, does not go back unless it comes back to a copy,
looks for literals at positions of the text only, and goes forward if it is a rule that comes to
a value. -/
theorem session_stays_in_text (s : String) (done : List Step) (step : Step) :
    ∃ answer after,
      (Session.ofString s).steps (done ++ [step]) =
        (Session.ofString s).steps done ++ [(answer, after)] ∧
      step.IsSafe s.toList ((Session.ofString s).after done).current answer after.current := by
  have h := (Session.inText_ofString s).after done
  exact ⟨_, _, Session.steps_concat _ done step, h.isSafe step⟩

end SumProduct
