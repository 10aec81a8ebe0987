import SumProduct.Proofs.Course
import SumProduct.Proofs.Evaluation
import SumProduct.Proofs.Text.Balance

/-!
# How deep expressions are nested

Reading is inside of one expression more than parentheses are open in what has been passed. So the
depth that a reading needs can be counted in the text: with a level for the expression itself and
one for each of the parentheses that are open at once, an evaluation comes to what it comes to
without a bound, and with fewer levels it comes to nothing (`evaluateWithin_eq_ite`). How long the
text is does not matter.

Two readers that differ in their levels alone are compared rule by rule: `Attempt` is what the one
comes to where the other has an outcome. Levels are counted anew for each operand, which is right
because a value leaves no parenthesis open (`Yields.balance_eq`). A fault may leave some open, but
then there is no next operand.
-/

namespace SumProduct

/-! ### Values leave no parenthesis open -/

/-- **A value leaves no parenthesis open**: what is passed on the way to it closes what it opens. -/
theorem Yields.balance_eq {t : Task} {result : Except Fault Binary64} {q : Place} {es : List Event}
    (h : Yields t result q es) {value : Binary64} (hv : result = .ok value) :
    balance q.rest = balance t.place.rest := by
  have hopen : balance ['('] = 1 := rfl
  have hclose : balance [')'] = -1 := rfl
  have hsymbol (op : Operator) : balance [op.symbol] = 0 := by cases op <;> rfl
  induction h generalizing value with
  | ended _ | noNumber _ _ _ | innerFault _ _ _ | unclosed _ _ _ _ | fault | unexpected _ _ _ _ =>
    cases hv
  | literal _ _ => rw [Place.balance_skipLiteral, Place.balance_skipBlanks]; rfl
  | @closed p _ q _ h _ hq ih =>
    have hbefore := Place.balance_rest h
    have hbehind := Place.balance_rest hq
    have hinner := ih rfl
    simp only [Task.place, Place.balance_skipBlanks] at hinner hbefore ⊢
    omega
  | @operands op p first q _ _ _ _ _ more ih₁ ih₂ =>
    cases first with
    | error _ => cases more; cases hv
    | ok _ =>
      have hoperand := ih₁ rfl
      rw [Operator.place_operand] at hoperand
      exact (ih₂ hv).trans hoperand
  | stop _ => exact Place.balance_skipBlanks _
  | @next op _ p operand q _ _ _ _ h _ more ih₁ ih₂ =>
    cases operand with
    | error _ => cases more; cases hv
    | ok _ =>
      have hbefore := Place.balance_rest h
      have hoperand := ih₁ rfl
      rw [Operator.place_operand] at hoperand
      rw [hsymbol, Place.balance_skipBlanks, Int.zero_add] at hbefore
      exact ((ih₂ hv).trans hoperand).trans hbefore.symm

/-! ### Attempts -/

/-- `Attempt levels p o attempt`: where the outcome from the place `p` is `o`, an attempt with some
levels comes to it if fewer parentheses are open at once in what is passed, and else to nothing. -/
def Attempt (levels : Nat) (p : Place) (o : Outcome) (attempt : Option Outcome) : Prop :=
  ∃ passed, p.Passes passed o.place ∧
    attempt = if nesting passed < levels then some o else none

namespace Attempt

variable {levels : Nat} {p q : Place} {o next : Outcome} {attempt : Option Outcome}
  {passed : List Char}

/-- One level is enough where no parenthesis is passed. -/
theorem of_nesting_eq_zero (hp : p.Passes passed o.place) (h : nesting passed = 0) :
    Attempt (levels + 1) p o (some o) :=
  ⟨passed, hp, (if_pos (by omega)).symm⟩

/-- What is passed before the attempt opens and closes nothing. -/
theorem before (hp : p.Passes passed q) (hb : balance passed = 0) (hn : nesting passed = 0)
    (h : Attempt levels q o attempt) : Attempt levels p o attempt := by
  obtain ⟨later, hlater, rfl⟩ := h
  exact ⟨passed ++ later, hp.append hlater, by rw [nesting_append_right hb hn]⟩

theorem behind_blanks (h : Attempt levels p.skipBlanks o attempt) : Attempt levels p o attempt := by
  have hblanks : (p.rest.takeWhile isBlank).all isBlank = true := List.all_takeWhile
  exact .before (.skipBlanks p) (balance_blanks hblanks) (nesting_of_all hblanks (by decide)) h

/-- An attempt, and one more after it if it comes to a value. -/
theorem bind {more : Outcome → Option Outcome} (h : Attempt levels p next attempt)
    (hvalue : ∀ value, next.result = .ok value →
      balance next.place.rest = balance p.rest ∧ Attempt levels next.place o (more next))
    (hfault : ∀ fault, next.result = .error fault → more next = some o ∧ o.place = next.place) :
    Attempt levels p o (attempt.bind more) := by
  obtain ⟨passed, hp, rfl⟩ := h
  cases hresult : next.result with
  | error fault =>
    obtain ⟨hmore, hplace⟩ := hfault fault hresult
    refine ⟨passed, hplace ▸ hp, ?_⟩
    split
    · exact hmore
    · rfl
  | ok value =>
    obtain ⟨hbalance, later, hlater, hmore⟩ := hvalue value hresult
    have hzero : balance passed = 0 := by
      rw [hp.1, balance_append] at hbalance
      omega
    have hnesting := nesting_append passed later
    refine ⟨passed ++ later, hp.append hlater, ?_⟩
    by_cases hlevels : nesting passed < levels
    · rw [if_pos hlevels, Option.bind_some, hmore]
      exact if_congr (by omega) rfl rfl
    · rw [if_neg hlevels, if_neg (by omega)]
      rfl

end Attempt

/-- A reader with some levels makes attempts at what another reader does. -/
def Attempts (levels : Nat) (read whole : Place → Option Outcome) : Prop :=
  ∀ p o, whole p = some o → Attempt levels p o (read p)

/-! ### Factors -/

section Factors

variable {inner inner' : Place → Option Outcome} {p q : Place}

theorem readFactor_of_open (h : p.skipBlanks.peek? = some '(') :
    readFactor inner p = (inner p.skipBlanks.advance).map fun o =>
      o.closed.after (Trace.passing p.position p.blanks ++
        .single (.entered .factor p.skipBlanks.position) ++
        .single (.advanced p.skipBlanks.advance.position)) := by
  simp [readFactor, h]

/-- Only behind a parenthesis a factor is read by the rule for what is in it. -/
theorem readFactor_congr (h : p.skipBlanks.peek? ≠ some '(') :
    readFactor inner p = readFactor inner' p := by
  unfold readFactor
  dsimp only
  split
  · rfl
  · next c hc =>
    have hopen : c ≠ '(' := fun hopen => h (hopen ▸ hc)
    rw [if_neg hopen, if_neg hopen]

/-- No parenthesis is passed by a factor that does not begin with one. -/
theorem Yields.passes_factor {result : Except Fault Binary64} {es : List Event}
    (hy : Yields (.factor p) result q es) (h : p.skipBlanks.peek? ≠ some '(') :
    ∃ passed, p.Passes passed q ∧ nesting passed = 0 := by
  have hblanks : nesting (p.rest.takeWhile isBlank) = 0 :=
    nesting_of_all List.all_takeWhile (by decide)
  cases hy with
  | ended _ | noNumber _ _ _ => exact ⟨_, .skipBlanks p, hblanks⟩
  | literal _ _ =>
    have hliteral : nesting p.skipBlanks.literal = 0 :=
      nesting_of_all List.all_takeWhile (by decide)
    exact ⟨_, (Place.Passes.skipBlanks p).append (.skipLiteral _),
      (nesting_append_left hliteral).trans hblanks⟩
  | innerFault hopen _ | closed hopen _ _ | unclosed hopen _ _ => exact absurd hopen h

/-- Nothing but a closing parenthesis is passed at the end of an expression in parentheses. -/
theorem Outcome.passes_closed (o : Outcome) :
    ∃ passed, o.place.Passes passed o.closed.place ∧ nesting passed = 0 := by
  unfold closed
  split
  · exact ⟨[], .refl _, rfl⟩
  · split
    · next hclose => exact ⟨[')'], .advance hclose, rfl⟩
    · exact ⟨[], .refl _, rfl⟩

/-- **Factors** take one level more than what is in their parentheses. -/
theorem Attempts.readFactor {levels : Nat} (h : Attempts levels inner inner')
    (hf : Follows inner' (.operands .plus)) :
    Attempts (levels + 1) (readFactor inner) (readFactor inner') := by
  intro p o ho
  by_cases hopen : p.skipBlanks.peek? = some '('
  · rw [readFactor_of_open hopen] at ho ⊢
    obtain ⟨i, hi, rfl⟩ := Option.map_eq_some_iff.1 ho
    obtain ⟨passed, hpassed, hread⟩ := h _ _ hi
    obtain ⟨close, hclose, hnone⟩ := i.passes_closed
    refine .behind_blanks
      ⟨'(' :: (passed ++ close), (Place.Passes.advance hopen).append (hpassed.append hclose), ?_⟩
    rw [hread, nesting_open, nesting_append_left hnone]
    by_cases hlevels : nesting passed < levels
    · rw [if_pos hlevels, if_pos (by omega)]
      rfl
    · rw [if_neg hlevels, if_neg (by omega)]
      rfl
  · obtain ⟨passed, hpassed, hnone⟩ := (hf.readFactor _ _ ho).passes_factor hopen
    rw [readFactor_congr hopen, ho]
    exact .of_nesting_eq_zero hpassed hnone

end Factors

/-! ### Operands -/

section Operands

variable {op : Operator} {levels : Nat} {operand operand' : Place → Option Outcome}

theorem readMore_of_error {rounds : List Char} {o : Outcome} {fault : Fault}
    (h : o.result = .error fault) : readMore op operand rounds o = some o := by
  cases rounds with
  | nil => rfl
  | cons _ _ => simp only [readMore, h]

/-- An operand that comes to a value leaves no parenthesis open. -/
theorem Follows.balance_eq (hf : Follows operand op.operand) {p : Place} {o : Outcome}
    (ho : operand p = some o) {value : Binary64} (hv : o.result = .ok value) :
    balance o.place.rest = balance p.rest := by
  have hbalance := (hf p o ho).balance_eq hv
  rwa [Operator.place_operand] at hbalance

/-- **Going on** after an outcome takes as many levels as the operands do. -/
theorem Attempts.readMore (h : Attempts (levels + 1) operand operand')
    (hf : Follows operand' op.operand) (rounds : List Char) (o o' : Outcome)
    (ho : readMore op operand' rounds o = some o') :
    Attempt (levels + 1) o.place o' (readMore op operand rounds o) := by
  induction rounds generalizing o with
  | nil =>
    obtain rfl := Option.some.inj ho
    exact .of_nesting_eq_zero (.refl _) rfl
  | cons _ rounds ih =>
    cases hresult : o.result with
    | error fault =>
      rw [readMore_of_error hresult] at ho ⊢
      obtain rfl := Option.some.inj ho
      exact .of_nesting_eq_zero (.refl _) rfl
    | ok value =>
      apply Attempt.behind_blanks
      simp only [SumProduct.readMore, hresult] at ho ⊢
      cases hpeek : o.skipBlanks.place.peek? with
      | none =>
        simp only [hpeek] at ho ⊢
        obtain rfl := Option.some.inj ho
        exact .of_nesting_eq_zero (.refl _) rfl
      | some c =>
        simp only [hpeek] at ho ⊢
        by_cases hop : c = op.symbol
        · rw [if_pos hop] at ho ⊢
          obtain ⟨next, hnext, hmore⟩ := Option.bind_eq_some_iff.1 ho
          have hsymbol : balance [c] = 0 ∧ nesting [c] = 0 := by
            subst hop
            cases op <;> decide
          refine .before (.advance hpeek) hsymbol.1 hsymbol.2 ((h _ _ hnext).bind ?_ ?_)
          · exact fun value hv => ⟨hf.balance_eq hnext hv, ih _ hmore⟩
          · intro fault hfault
            have hcombine : (o.skipBlanks.advance.combine op value next).result = .error fault := by
              rw [Outcome.combine, hfault]
              rfl
            rw [readMore_of_error hcombine] at hmore ⊢
            obtain rfl := Option.some.inj hmore
            exact ⟨rfl, rfl⟩
        · rw [if_neg hop] at ho ⊢
          have hplace : o.skipBlanks.place.Passes [] o'.place := by
            split at ho <;> obtain rfl := Option.some.inj ho <;> exact .refl _
          rw [ho]
          exact .of_nesting_eq_zero hplace rfl

/-- **Operands** take as many levels as one of them does. -/
theorem Attempts.readOperands (op : Operator) (h : Attempts (levels + 1) operand operand')
    (hf : Follows operand' op.operand) (entry : Place → Trace) :
    Attempts (levels + 1) (fun p => readOperands op operand (entry p) p)
      (fun p => readOperands op operand' (entry p) p) := by
  intro p o ho
  obtain ⟨first, hfirst, hmore⟩ := Option.bind_eq_some_iff.1 ho
  refine (h p first hfirst).bind ?_ ?_
  · exact fun value hv => ⟨hf.balance_eq hfirst hv, h.readMore hf _ _ _ hmore⟩
  · intro fault hfault
    rw [readMore_of_error (o := first.after (entry p)) hfault] at hmore ⊢
    obtain rfl := Option.some.inj hmore
    exact ⟨rfl, rfl⟩

end Operands

/-! ### Expressions -/

/-- **Expressions** take a level, and one for each of the parentheses that are open at once. -/
theorem attempts_expressionWithin (levels depth : Nat) :
    Attempts levels (expressionWithin levels) (expressionWithin depth) := by
  induction levels generalizing depth with
  | zero =>
    intro p o ho
    have hyields := follows_expressionWithin depth p o ho
    obtain ⟨passed, hpassed⟩ := hyields.leadsTo
    have hnesting := nesting_nonneg passed
    exact ⟨passed, hpassed, (if_neg (by omega)).symm⟩
  | succ levels ih =>
    cases depth with
    | zero => exact fun p o ho => nomatch ho
    | succ depth =>
      have hinner := follows_expressionWithin depth
      have hterm : Attempts (levels + 1) (readTerm (expressionWithin levels))
          (readTerm (expressionWithin depth)) :=
        ((ih depth).readFactor hinner).readOperands .times hinner.readFactor _
      exact hterm.readOperands .plus (.readOperands .times hinner.readFactor) _

/-- The run of the rule for expressions is attempted by the rule with some levels. -/
theorem Rule.attempt_run (levels : Nat) (p : Place) :
    Attempt levels p (Rule.expression.run p) (Rule.expression.within levels p) :=
  attempts_expressionWithin levels _ _ _ (Option.some_get _).symm

/-! ### Evaluation -/

section Evaluation

variable {s : String}

theorem evaluateWithin_of_blank (h : s.toList.all isBlank = true) (depth : Nat) :
    (Reading.ofString s).evaluateWithin depth = some (Reading.ofString s).evaluate := by
  have hblank : (Reading.ofString s).IsBlank := h
  rw [Reading.evaluateWithin, Reading.evaluate, if_pos hblank, if_pos hblank]

/-- How deep the parentheses go in what is read of a text says what an evaluation within a depth
comes to. -/
theorem evaluateWithin_eq_ite (h : s.toList.all isBlank = false) (depth : Nat) :
    (Reading.ofString s).evaluateWithin depth =
      if nesting (s.toList.take (Reading.ofString s).evaluate.place.position) < depth then
        some (Reading.ofString s).evaluate
      else none := by
  have hblank : ¬ (Reading.ofString s).IsBlank := Reading.not_isBlank h
  obtain ⟨passed, ⟨htext, hposition⟩, hread⟩ := Rule.attempt_run depth (.start s.toList)
  have hpassed : s.toList.take (Reading.ofString s).evaluate.place.position = passed := by
    have hstart : s.toList = passed ++ (Rule.expression.run (.start s.toList)).place.rest := htext
    have hlength : (Reading.ofString s).evaluate.place.position = passed.length := by
      rw [place_evaluate h, hposition]
      exact Nat.zero_add _
    rw [hlength, hstart, List.take_left]
  rw [hpassed, Reading.evaluate_eq_conclusion (r := .ofString s) h, Reading.evaluateWithin,
    if_neg hblank, Reading.place_ofString, hread]
  split <;> rfl

/-- A level more than parentheses are ever open at once is enough. -/
theorem evaluateWithin_of_nesting_lt {depth : Nat} (h : nesting s.toList < depth) :
    (Reading.ofString s).evaluateWithin depth = some (Reading.ofString s).evaluate := by
  cases hblank : s.toList.all isBlank with
  | true => exact evaluateWithin_of_blank hblank depth
  | false =>
    have hcut := nesting_append (s.toList.take (Reading.ofString s).evaluate.place.position)
      (s.toList.drop (Reading.ofString s).evaluate.place.position)
    rw [List.take_append_drop] at hcut
    rw [evaluateWithin_eq_ite hblank, if_pos (by omega)]

/-- **The depth of an evaluation is the depth of the parentheses.** With a level more than any
beginning of the text leaves parentheses open, an evaluation within that depth comes to all that an
evaluation comes to. So a text without opening parentheses needs a single level, and there is always
a depth that is enough. No level can be spared: an evaluation of a text that is not blank comes to
nothing if some beginning of what it reads leaves as many parentheses open as there are levels. -/
theorem depth_is_nesting (s : String) :
    (∀ depth : Nat, (∀ passed, passed <+: s.toList → 1 + balance passed ≤ depth) →
      (Reading.ofString s).evaluateWithin depth = some (Reading.ofString s).evaluate) ∧
    ('(' ∉ s.toList →
      (Reading.ofString s).evaluateWithin 1 = some (Reading.ofString s).evaluate) ∧
    (Reading.ofString s).evaluateWithin (s.toList.count '(' + 1) =
      some (Reading.ofString s).evaluate ∧
    (s.toList.all isBlank = false → ∀ depth : Nat,
      (Reading.ofString s).evaluateWithin depth = none ↔
        ∃ passed, passed <+: s.toList.take (Reading.ofString s).evaluate.place.position ∧
          depth ≤ balance passed) := by
  have hcount := nesting_le_count s.toList
  refine ⟨fun depth h => ?_, fun h => ?_, ?_, fun h depth => ?_⟩
  · apply evaluateWithin_of_nesting_lt
    rw [nesting_lt_iff]
    intro passed hpassed
    have hlevels := h passed hpassed
    omega
  · apply evaluateWithin_of_nesting_lt
    rw [List.count_eq_zero_of_not_mem h] at hcount
    omega
  · apply evaluateWithin_of_nesting_lt
    omega
  · rw [evaluateWithin_eq_ite h, ite_eq_right_iff, ← le_nesting_iff, ← Int.not_lt]
    exact imp_congr_right fun _ => iff_false_intro (Option.some_ne_none _)

theorem depth_is_nesting_unclosed :
    (∀ passed, passed <+: "2*((3+4".toList → 1 + balance passed ≤ (3 : Nat)) ∧
      (Reading.ofString "2*((3+4").evaluateWithin 3 = some (Reading.ofString "2*((3+4").evaluate ∧
      (Reading.ofString "2*((3+4").evaluateWithin 2 = none ∧
      '(' ∉ "1+2)".toList ∧
      (Reading.ofString "1+2)").evaluateWithin 1 = some (Reading.ofString "1+2)").evaluate := by
  have hnesting : nesting "2*((3+4".toList < 3 := by decide
  have hlevels (passed : List Char) (h : passed <+: "2*((3+4".toList) :
      1 + balance passed ≤ (3 : Nat) := by
    have hpassed := nesting_lt_iff.1 hnesting passed h
    omega
  have hopen : '(' ∉ "1+2)".toList := by decide
  have hblank : "2*((3+4".toList.all isBlank = false := by decide
  have hplace : (Reading.ofString "2*((3+4").evaluate.place.position = 7 := rfl
  have hdeep : ∃ passed, passed <+: "2*((3+4".toList.take 7 ∧ (2 : Nat) ≤ balance passed :=
    ⟨"2*((".toList, by decide, by decide⟩
  obtain ⟨henough, -, -, hspare⟩ := depth_is_nesting "2*((3+4"
  rw [hplace] at hspare
  exact ⟨hlevels, henough 3 hlevels, (hspare hblank 2).2 hdeep, hopen,
    (depth_is_nesting "1+2)").2.1 hopen⟩

end Evaluation

end SumProduct
