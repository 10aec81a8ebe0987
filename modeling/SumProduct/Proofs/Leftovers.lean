import SumProduct.Proofs.Faults.Origins
import SumProduct.Proofs.Forward

/-!
# What is left over by a term

A term passes the blanks behind it and stops at a plus sign, a closing parenthesis or the end of the
text. So the loop over the terms of a sum never sees anything else: it has no blanks to pass, no
sign of a product to leave to others, and no character to complain of.

`readTermsElse` is that loop without an opinion on all this: it goes on at a plus sign, it stops at
a closing parenthesis or at the end, and whatever else there may be it hands to a function of any
kind, which may also come to nothing. With any such function in place of its own arms the descent is
the same, at every depth (`Rule.same_withinElse`). For the same reason a parenthesis that is not
closed is found at the end of the text only, and all that can be left over behind a whole expression
is a closing parenthesis (`only_stops_are_left_over`).
-/

namespace SumProduct

/-! ### A sum that knows nothing but plus signs and stops -/

/-- Go on after a term with plus signs and terms, as long as they come, up to a closing parenthesis
or the end of the text. Do something else at any other character, a blank included. -/
def readTermsElse (otherwise : Char → Outcome → Option Outcome) (term : Place → Option Outcome) :
    List Char → Outcome → Option Outcome
  | [], o => some o
  | _ :: rounds, o =>
    match o.result with
    | .error _ => some o
    | .ok value =>
      match o.place.peek? with
      | none => some o
      | some c =>
        if c = '+' then
          (term o.advance.place).bind fun next =>
            readTermsElse otherwise term rounds (o.advance.combine .plus value next)
        else if c = ')' then some o
        else otherwise c o

/-- A sum of terms, read in this way. -/
def readSumElse (otherwise : Char → Outcome → Option Outcome) (inner : Place → Option Outcome)
    (p : Place) : Option Outcome :=
  (readTerm inner p).bind fun first =>
    readTermsElse otherwise (readTerm inner) first.place.rest
      (first.after (.single (.entered .expression p.position)))

/-- A sum of terms with all the sums in it, down to a depth, read in this way. -/
def sumWithinElse (otherwise : Char → Outcome → Option Outcome) : Nat → Place → Option Outcome
  | 0, _ => none
  | depth + 1, p => readSumElse otherwise (sumWithinElse otherwise depth) p

/-- The outcome of a rule down to a depth, with sums read in this way. -/
def Rule.withinElse (otherwise : Char → Outcome → Option Outcome) (depth : Nat) :
    Rule → Place → Option Outcome
  | .expression => sumWithinElse otherwise depth
  | .term => readTerm (sumWithinElse otherwise depth)
  | .factor => readFactor (sumWithinElse otherwise depth)

/-! ### Readers with the same outcomes -/

/-- The same result at the same place, and the same events on the way. -/
structure Outcome.Same (o o' : Outcome) : Prop where
  /-- The results are the same. -/
  result : o.result = o'.result
  /-- The places are the same. -/
  place : o.place = o'.place
  /-- The events are the same, however they are joined. -/
  events : o.trace.events = o'.trace.events

namespace Outcome.Same

variable {o o' next next' : Outcome}

theorem refl (o : Outcome) : o.Same o := ⟨rfl, rfl, rfl⟩

theorem after (h : o.Same o') (t : Trace) : (o.after t).Same (o'.after t) := by
  refine ⟨h.result, h.place, ?_⟩
  rw [events_after, events_after, h.events]

theorem advance (h : o.Same o') : o.advance.Same o'.advance := by
  refine ⟨h.result, congrArg Place.advance h.place, ?_⟩
  simp [Outcome.advance, h.place, h.events]

theorem skipBlanks (h : o.Same o') : o.skipBlanks.Same o'.skipBlanks := by
  refine ⟨h.result, congrArg Place.skipBlanks h.place, ?_⟩
  simp [Outcome.skipBlanks, h.place, h.events]

theorem combine (h : o.Same o') (hnext : next.Same next') (op : Operator) (value : Binary64) :
    (o.combine op value next).Same (o'.combine op value next') := by
  refine ⟨congrArg (Except.map (op.apply value)) hnext.result, hnext.place, ?_⟩
  simp [Outcome.combine, h.events, hnext.events]

theorem closed (h : o.Same o') : o.closed.Same o'.closed := by
  have hadvance := h.advance
  rcases o with ⟨result, place, trace⟩
  rcases o' with ⟨result', place', trace'⟩
  obtain ⟨rfl, rfl, hevents⟩ := h
  cases result with
  | error fault => exact ⟨rfl, rfl, hevents⟩
  | ok value =>
    simp only [Outcome.closed]
    split
    · exact hadvance
    · exact ⟨rfl, rfl, hevents⟩

/-- Without blanks to pass the outcome stays the same. -/
theorem skipBlanks_right (h : o.Same o') (hb : NoneFirst isBlank o'.place.rest) :
    o.Same o'.skipBlanks := by
  have hblanks : o'.place.blanks = 0 := by rw [Place.blanks, hb.takeWhile_eq_nil, List.length_nil]
  refine ⟨h.result, h.place.trans (Place.skipBlanks_eq_self hb).symm, ?_⟩
  simp [Outcome.skipBlanks, hblanks, h.events]

end Outcome.Same

/-- One of two readers comes to an outcome where the other comes to the same one. -/
def SameOutcomes (read read' : Place → Option Outcome) : Prop :=
  ∀ p, Option.Rel Outcome.Same (read p) (read' p)

theorem sameOutcomes_bind {x y : Option Outcome} {f g : Outcome → Option Outcome}
    (h : Option.Rel Outcome.Same x y)
    (hfg : ∀ o o', y = some o' → o.Same o' → Option.Rel Outcome.Same (f o) (g o')) :
    Option.Rel Outcome.Same (x.bind f) (y.bind g) := by
  cases h with
  | none => exact .none
  | some h => exact hfg _ _ rfl h

theorem sameOutcomes_map {x y : Option Outcome} {f : Outcome → Outcome}
    (h : Option.Rel Outcome.Same x y) (hf : ∀ o o', o.Same o' → (f o).Same (f o')) :
    Option.Rel Outcome.Same (x.map f) (y.map f) := by
  cases h with
  | none => exact .none
  | some h => exact .some (hf _ _ h)

namespace SameOutcomes

variable {read read' : Place → Option Outcome}

theorem readMore (h : SameOutcomes read read') (op : Operator) (rounds : List Char) {o o' : Outcome}
    (ho : o.Same o') : Option.Rel Outcome.Same (SumProduct.readMore op read rounds o)
      (SumProduct.readMore op read' rounds o') := by
  induction rounds generalizing o o' with
  | nil => exact .some ho
  | cons d rounds ih =>
    simp only [SumProduct.readMore, ho.result, ho.skipBlanks.place]
    split
    · exact .some ho
    · split
      · exact .some ho.skipBlanks
      · split
        · rw [ho.skipBlanks.advance.place]
          apply sameOutcomes_bind (h _)
          intro next next' _ hnext
          exact ih (ho.skipBlanks.advance.combine hnext op _)
        · split
          · exact .some ho.skipBlanks
          · exact .some ⟨rfl, ho.skipBlanks.place, ho.skipBlanks.events⟩

theorem readOperands (h : SameOutcomes read read') (op : Operator) (entry : Place → Trace) :
    SameOutcomes (fun p => SumProduct.readOperands op read (entry p) p)
      (fun p => SumProduct.readOperands op read' (entry p) p) := by
  intro p
  apply sameOutcomes_bind (h p)
  intro first first' _ hfirst
  rw [hfirst.place]
  exact h.readMore op _ (hfirst.after _)

theorem readFactor (h : SameOutcomes read read') :
    SameOutcomes (SumProduct.readFactor read) (SumProduct.readFactor read') := by
  intro p
  simp only [SumProduct.readFactor]
  split
  · exact .some (.refl _)
  · split
    · exact sameOutcomes_map (h _) fun _ _ hinner => hinner.closed.after _
    · exact .some (.refl _)

theorem readTerm (h : SameOutcomes read read') :
    SameOutcomes (SumProduct.readTerm read) (SumProduct.readTerm read') :=
  h.readFactor.readOperands .times fun p => .single (.entered .term p.position)

end SameOutcomes

/-! ### Other characters are never seen -/

/-- A value comes where the rule stops. -/
def Outcome.StopsAs (o : Outcome) (rule : Rule) : Prop :=
  ∀ value, o.result = .ok value → rule.Stops o.place.peek?

theorem Rule.stopsAs_within {depth : Nat} {rule : Rule} {p : Place} {o : Outcome}
    (h : rule.within depth p = some o) : o.StopsAs rule := by
  intro value hvalue
  have hyields := rule.follows_within depth p o h
  rw [hvalue] at hyields
  exact rule.stops_of_yields hyields

theorem Rule.stopsAs_run (rule : Rule) (p : Place) : (rule.run p).StopsAs rule :=
  stopsAs_within (Option.some_get _).symm

/-- An operator and one more operand stop where the operand does. -/
theorem Outcome.StopsAs.combine {next : Outcome} {rule : Rule} (h : next.StopsAs rule) (o : Outcome)
    (op : Operator) (value : Binary64) : (o.combine op value next).StopsAs rule := by
  intro v hv
  cases hnext : next.result with
  | error fault => simp [Outcome.combine, hnext, Except.map] at hv
  | ok w => exact h w hnext

variable (otherwise : Char → Outcome → Option Outcome)

/-- **The loop**: behind a term it makes no difference what is done at characters other than plus
signs and closing parentheses. -/
theorem SameOutcomes.readTermsElse {term term' : Place → Option Outcome}
    (h : SameOutcomes term term') (hterm : ∀ p o, term' p = some o → o.StopsAs .term)
    (rounds : List Char) {o o' : Outcome} (ho : o.Same o') (hstops : o'.StopsAs .term) :
    Option.Rel Outcome.Same (SumProduct.readTermsElse otherwise term rounds o)
      (SumProduct.readMore .plus term' rounds o') := by
  induction rounds generalizing o o' with
  | nil => exact .some ho
  | cons d rounds ih =>
    simp only [SumProduct.readTermsElse, SumProduct.readMore, ho.result, ho.place]
    cases hresult : o'.result with
    | error fault => exact .some ho
    | ok value =>
      have hstop := hstops value hresult
      have hblank := Place.noneFirst_isBlank_of_stops hstop
      have hskip : o'.skipBlanks.place = o'.place := Place.skipBlanks_eq_self hblank
      have hsame := ho.skipBlanks_right hblank
      have hplace : o.advance.place = o'.skipBlanks.advance.place := hsame.advance.place
      simp only [hskip]
      rcases hstop with hend | hplus | hclose
      · simp only [hend]
        exact .some hsame
      · have hsymbol : Operator.plus.symbol = '+' := rfl
        simp only [hplus, hsymbol, if_true, hplace]
        apply sameOutcomes_bind (h _)
        intro next next' hnext hnextSame
        exact ih (hsame.advance.combine hnextSame .plus value) ((hterm _ _ hnext).combine _ _ _)
      · simp only [hclose]
        exact .some hsame

/-- **The descent**: down to any depth it comes to the same outcomes, or to none, whatever is done
at other characters. -/
theorem Rule.same_withinElse (depth : Nat) (rule : Rule) :
    SameOutcomes (rule.withinElse otherwise depth) (rule.within depth) := by
  have hsum : SameOutcomes (sumWithinElse otherwise depth) (expressionWithin depth) := by
    induction depth with
    | zero => exact fun p => .none
    | succ depth ih =>
      intro p
      apply sameOutcomes_bind (ih.readTerm p)
      intro first first' hfirst hsame
      rw [hsame.place]
      have hterm : ∀ p o, readTerm (expressionWithin depth) p = some o → o.StopsAs .term :=
        fun p o ho => Rule.stopsAs_within (show Rule.term.within depth p = some o from ho)
      have hstops : first'.StopsAs .term := hterm p first' hfirst
      exact ih.readTerm.readTermsElse otherwise hterm _ (hsame.after _) hstops
  cases rule with
  | expression => exact hsum
  | term => exact hsum.readTerm
  | factor => exact hsum.readFactor

/-! ### Readings -/

namespace Reading

variable {r : Reading} {rule : Rule}

/-- The next character after a rule is the one where it stopped. -/
theorem peek?_moveTo_run (r : Reading) (rule : Rule) :
    (r.moveTo (r.run rule).place).peek? = (r.run rule).place.peek? := by
  have hrest : (r.run rule).place.rest = r.text.drop (r.run rule).place.position :=
    (rule.leadsTo_run r.place).rest_eq_drop rfl
  rw [Place.peek?, hrest]
  rfl

/-- At the end of the text the position is its length. -/
theorem position_of_peek?_none (h : r.position ≤ r.text.length) {q : Place} (hq : r.place.LeadsTo q)
    (hend : q.peek? = none) : q.position = r.text.length := by
  have hsum := hq.position_add_length
  simp only [Place.rest_eq_nil hend, List.length_nil, place, List.length_drop] at hsum
  omega

/-- A parenthesis that is not closed is found at the end of the text. -/
theorem eq_end_of_expectedClosing (h : r.position ≤ r.text.length) {found : Option Char} {n : Nat}
    (hfault : (r.run rule).result = .error (.expectedClosing found n)) :
    found = none ∧ n = r.text.length := by
  obtain ⟨s, hs, harises⟩ := Rule.arises_run hfault
  cases harises with
  | unclosed hend => exact ⟨rfl, position_of_peek?_none h hs hend⟩

/-- An evaluation fails behind an expression that comes to a value only at a closing parenthesis. -/
theorem fault_of_evaluate_of_ok {value : Binary64} {fault : Fault}
    (h : (r.run .expression).result = .ok value) (hfault : r.evaluate.result = .error fault) :
    fault = .unexpectedCharacter ')' (r.run .expression).place.position := by
  cases hb : r.text.all isBlank with
  | true =>
    -- there is no expression in blanks
    have hrest : (r.text.drop r.position).all isBlank = true := by
      rw [List.all_eq_true] at hb ⊢
      intro c hc
      exact hb c (List.mem_of_mem_drop hc)
    have hrun : (r.run .expression).result = .error _ := run_expression_of_blank r.position hrest
    exact nomatch hrun.symm.trans h
  | false =>
    rw [evaluate_of_not_blank hb] at hfault
    rcases Rule.ended_run_of_ok h with hok | hleft
    · exact nomatch hok.symm.trans hfault
    · exact Except.error.inj (hfault.symm.trans hleft)

end Reading

/-- **Only stops are left over**, from any position of a text. A term that comes to a value is
before a plus sign, a closing parenthesis or the end, and an expression before one of the last two.
So no run of a rule depends on what the loop over the terms of a sum does at any other character; a
parenthesis that is not closed is missed at the end of the text, where there is no character; and an
evaluation in which an expression comes to a value fails at a closing parenthesis, if it does. -/
theorem only_stops_are_left_over {r : Reading} (h : r.position ≤ r.text.length) :
    (∀ value, (r.run .term).result = .ok value →
      let next := (r.moveTo (r.run .term).place).peek?
      next = none ∨ next = some '+' ∨ next = some ')') ∧
    (∀ value, (r.run .expression).result = .ok value →
      let next := (r.moveTo (r.run .expression).place).peek?
      next = none ∨ next = some ')') ∧
    (∀ (otherwise : Char → Outcome → Option Outcome) (rule : Rule), ∃ o,
      rule.withinElse otherwise (r.place.rest.length + 1) r.place = some o ∧ o.Same (r.run rule)) ∧
    (∀ (rule : Rule) found n, (r.run rule).result = .error (.expectedClosing found n) →
      found = none ∧ n = r.text.length) ∧
    ∀ value fault, (r.run .expression).result = .ok value → r.evaluate.result = .error fault →
      fault = .unexpectedCharacter ')' (r.run .expression).place.position := by
  simp only [Reading.peek?_moveTo_run]
  refine ⟨Rule.term.stopsAs_run r.place, Rule.expression.stopsAs_run r.place, ?_, ?_, ?_⟩
  · intro otherwise rule
    have hrun : rule.within (r.place.rest.length + 1) r.place = some (r.run rule) :=
      (Option.some_get _).symm
    have hsame := rule.same_withinElse otherwise (r.place.rest.length + 1) r.place
    rw [hrun] at hsame
    generalize rule.withinElse otherwise (r.place.rest.length + 1) r.place = read at hsame
    cases hsame with
    | some hsame => exact ⟨_, rfl, hsame⟩
  · intro rule found n hfault
    exact Reading.eq_end_of_expectedClosing h hfault
  · intro value fault hvalue hfault
    exact Reading.fault_of_evaluate_of_ok hvalue hfault

theorem only_stops_are_left_over_closing :
    (Reading.run ⟨"1+2*3 )4".toList, 2⟩ .expression).place.position = 6 ∧
      (Reading.evaluate ⟨"1+2*3 )4".toList, 2⟩).result = .error (.unexpectedCharacter ')' 6) ∧
      Reading.peek? ⟨"1+2*3 )4".toList, 6⟩ = some ')' := by
  have h : Reading.position ⟨"1+2*3 )4".toList, 2⟩ ≤ "1+2*3 )4".toList.length := by decide
  obtain ⟨-, hexpression, -, -, hevaluate⟩ := only_stops_are_left_over h
  have hvalue : (Reading.run ⟨"1+2*3 )4".toList, 2⟩ .expression).result = .ok _ := rfl
  have hfault : (Reading.evaluate ⟨"1+2*3 )4".toList, 2⟩).result = .error _ := rfl
  refine ⟨rfl, hfault.trans (congrArg _ (hevaluate _ _ hvalue hfault)), ?_⟩
  exact (hexpression _ hvalue).resolve_left nofun

end SumProduct
