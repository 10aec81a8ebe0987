import SumProduct.Grammar.Basic
import SumProduct.Outcome

/-!
# Descent

Reading and computing at once, by descent through the rules of the grammar

    expression = term { "+" term }
    term       = factor { "*" factor }
    factor     = "(" expression ")" | literal

with blanks anywhere between tokens. No tree is built: each rule comes to the value of
what it read.

A rule is entered with the rule to use between parentheses. Tying that knot needs a
bound on how deep parentheses go, `depth`: a rule that would have to go deeper comes to
no outcome at all. With as many levels as there are characters left, and one more, there
is always an outcome (`isSome_within`), and `Rule.run` is that one.

## Honest scope

The rules stop where the text no longer fits and leave the rest of it alone. Whether an
expression makes up a whole text is decided in `SumProduct.Reading`.
-/

namespace SumProduct

/-! ### Repetition -/

/-- The outcome of a reading that goes on after a value. -/
def Outcome.combine (o : Outcome) (op : Operator) (value : Binary64) (next : Outcome) : Outcome :=
  ⟨next.result.map (op.apply value), next.place, o.trace ++ next.trace⟩

/-- Read operators of one kind, each with an operand after it, as long as they come. An
operator of the other kind and a closing parenthesis are left to others; any other
character is a fault. No round is without an operator, so there cannot be more rounds
than characters. -/
def readMore (op : Operator) (operand : Place → Option Outcome) :
    List Char → Outcome → Option Outcome
  | [], o => some o
  | _ :: rounds, o =>
    match o.result with
    | .error _ => some o
    | .ok value =>
      let stop := o.skipBlanks
      match stop.place.peek? with
      | none => some stop
      | some c =>
        if c = op.symbol then
          (operand stop.advance.place).bind fun next =>
            readMore op operand rounds (stop.advance.combine op value next)
        else if c = op.other.symbol ∨ c = ')' then some stop
        else some (stop.withResult (.error (.unexpectedCharacter c stop.place.position)))

/-- Operands with operators of one kind between them. -/
def readOperands (op : Operator) (operand : Place → Option Outcome) (entry : Trace) (p : Place) :
    Option Outcome :=
  (operand p).bind fun first => readMore op operand first.place.rest (first.after entry)

/-! ### The grammar -/

/-- The end of a parenthesised expression. -/
def Outcome.closed (o : Outcome) : Outcome :=
  match o.result with
  | .error _ => o
  | .ok _ =>
    if o.place.peek? = some ')' then o.advance
    else o.withResult (.error (.expectedClosing o.place.peek? o.place.position))

/-- A parenthesised expression or a literal, with blanks before it. -/
def readFactor (inner : Place → Option Outcome) (p : Place) : Option Outcome :=
  let q := p.skipBlanks
  let entry := Trace.passing p.position p.blanks ++ .single (.entered .factor q.position)
  match q.peek? with
  | none => some ⟨.error (.unexpectedEnd q.position), q, entry⟩
  | some c =>
    if c = '(' then
      (inner q.advance).map fun o =>
        o.closed.after (entry ++ .single (.advanced q.advance.position))
    else some ((Outcome.ofLiteral q).after entry)

/-- A product of factors. -/
def readTerm (inner : Place → Option Outcome) (p : Place) : Option Outcome :=
  readOperands .times (readFactor inner) (.single (.entered .term p.position)) p

/-- A sum of terms. -/
def readExpression (inner : Place → Option Outcome) (p : Place) : Option Outcome :=
  readOperands .plus (readTerm inner) (.single (.entered .expression p.position)) p

/-- A sum of terms, with sums in parentheses in it down to a depth. -/
def expressionWithin : Nat → Place → Option Outcome
  | 0, _ => none
  | depth + 1, p => readExpression (expressionWithin depth) p

/-- The outcome of a rule at a place if expressions may be nested down to a depth, the
outermost one counted; nothing if that is not deep enough. -/
def Rule.within (depth : Nat) : Rule → Place → Option Outcome
  | .expression => expressionWithin depth
  | .term => readTerm (expressionWithin depth)
  | .factor => readFactor (expressionWithin depth)

/-! ### There is always an outcome -/

/-- Below a length of text there is an outcome, and it is not further from the end. -/
def Settles (rule : Place → Option Outcome) (bound : Nat) : Prop :=
  ∀ p : Place, p.rest.length < bound →
    ∃ o, rule p = some o ∧ o.place.rest.length ≤ p.rest.length

theorem length_place_closed_le (o : Outcome) :
    o.closed.place.rest.length ≤ o.place.rest.length := by
  unfold Outcome.closed
  split
  · exact Nat.le_refl _
  · split
    · exact Place.length_advance_le _
    · exact Nat.le_refl _

theorem Settles.readMore (op : Operator) {operand : Place → Option Outcome} {bound : Nat}
    (h : Settles operand bound) (rounds : List Char) (o : Outcome)
    (ho : o.place.rest.length < bound) :
    ∃ o', SumProduct.readMore op operand rounds o = some o' ∧
      o'.place.rest.length ≤ o.place.rest.length := by
  induction rounds generalizing o with
  | nil => exact ⟨o, rfl, Nat.le_refl _⟩
  | cons c rounds ih =>
    have hskip : o.skipBlanks.place.rest.length ≤ o.place.rest.length :=
      Place.length_skipBlanks_le _
    have hadv : o.skipBlanks.advance.place.rest.length ≤ o.skipBlanks.place.rest.length :=
      Place.length_advance_le _
    unfold SumProduct.readMore
    split
    · exact ⟨o, rfl, Nat.le_refl _⟩
    · next value _ =>
      dsimp only
      split
      · exact ⟨_, rfl, hskip⟩
      · split
        · obtain ⟨next, hnext, hle⟩ := h o.skipBlanks.advance.place (by omega)
          obtain ⟨o', ho', hle'⟩ := ih (o.skipBlanks.advance.combine op value next)
            (show next.place.rest.length < bound by omega)
          have hle'' : o'.place.rest.length ≤ next.place.rest.length := hle'
          exact ⟨o', by rw [hnext]; exact ho', by omega⟩
        · split
          · exact ⟨_, rfl, hskip⟩
          · exact ⟨_, rfl, hskip⟩

theorem Settles.readOperands {op : Operator} {operand : Place → Option Outcome} {bound : Nat}
    (h : Settles operand bound) (entry : Place → Trace) :
    Settles (fun p => SumProduct.readOperands op operand (entry p) p) bound := by
  intro p hp
  obtain ⟨first, hfirst, hle⟩ := h p hp
  obtain ⟨o, ho, hle'⟩ := h.readMore op first.place.rest (first.after (entry p))
    (show first.place.rest.length < bound by omega)
  have hle'' : o.place.rest.length ≤ first.place.rest.length := hle'
  exact ⟨o, by simp only [SumProduct.readOperands, hfirst]; exact ho, by omega⟩

theorem Settles.readFactor {inner : Place → Option Outcome} {bound : Nat}
    (h : Settles inner bound) : Settles (SumProduct.readFactor inner) (bound + 1) := by
  intro p hp
  have hskip := Place.length_skipBlanks_le p
  unfold SumProduct.readFactor
  dsimp only
  split
  · exact ⟨_, rfl, hskip⟩
  · next c hc =>
    split
    · have hadv : p.skipBlanks.advance.rest.length < p.skipBlanks.rest.length := by
        rcases hq : p.skipBlanks with ⟨n, _ | ⟨d, rest⟩⟩
        · simp [Place.peek?, hq] at hc
        · simp
      obtain ⟨o, ho, hle⟩ := h p.skipBlanks.advance (by omega)
      have := length_place_closed_le o
      exact ⟨_, by rw [ho]; rfl, by simp only [Outcome.place_after]; omega⟩
    · exact ⟨_, rfl, Nat.le_trans (Outcome.length_place_ofLiteral_le _) hskip⟩

theorem settles_expressionWithin (depth : Nat) : Settles (expressionWithin depth) depth := by
  induction depth with
  | zero => intro p hp; omega
  | succ depth ih => exact (ih.readFactor.readOperands _).readOperands _

theorem Rule.settles_within (depth : Nat) (rule : Rule) : Settles (rule.within depth) depth := by
  have h := settles_expressionWithin depth
  have widen {r : Place → Option Outcome} (hr : Settles r (depth + 1)) : Settles r depth :=
    fun p hp => hr p (by omega)
  cases rule with
  | expression => exact h
  | term => exact widen (h.readFactor.readOperands _)
  | factor => exact widen h.readFactor

/-- One level for each character left, and one more, are enough. -/
theorem Rule.isSome_within (rule : Rule) (p : Place) :
    (rule.within (p.rest.length + 1) p).isSome = true := by
  obtain ⟨o, ho, -⟩ := rule.settles_within (p.rest.length + 1) p (by omega)
  simp [ho]

/-- The outcome of a rule at a place. -/
def Rule.run (rule : Rule) (p : Place) : Outcome :=
  (rule.within (p.rest.length + 1) p).get (rule.isSome_within p)

end SumProduct
