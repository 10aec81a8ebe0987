import SumProduct.Proofs.Places
import SumProduct.Reading

/-!
# The course of a descent

The rules of `SumProduct.Descent` as an inductive relation: `Yields task result q es` says
that a task comes to a result, stops at the place `q` and reports the events `es` on the
way. Depth and rounds, which only bound the recursion of the program, are not in it, and
every way a task can go has a constructor of its own. What holds of all descents is
proved by induction on this relation.

The relation is the program: a rule yields what `Rule.run` says (`Rule.yields_run`), and
nothing else (`Yields.unique`), which together are `yields_iff_run`.
-/

namespace SumProduct

/-! ### The parts of a step -/

namespace Place

/-- The events of passing the blanks. -/
def blankEvents (p : Place) : List Event := (List.range' (p.position + 1) p.blanks).map .advanced

/-- The events of a factor up to its first character. -/
def factorEvents (p : Place) : List Event :=
  p.blankEvents ++ [.entered .factor p.skipBlanks.position]

/-- What the longest run of digits and points comes to. -/
def literalResult (p : Place) : Except Fault Binary64 :=
  (Literal.value p.literal).mapError (.badLiteral (String.ofList p.literal) p.position)

end Place

theorem Outcome.ofLiteral_eq {p : Place} {c : Char} (h : p.peek? = some c) :
    Outcome.ofLiteral p =
      if isLiteralChar c = true then
        ⟨p.literalResult, p.skipLiteral, .single (.scanned (String.ofList p.literal) p.position)⟩
      else ⟨.error (.expectedNumber (some c) p.position), p, .empty⟩ := by
  split
  · next hc => exact if_neg (Place.literal_ne_nil h hc)
  · next hc =>
    rw [← h]
    exact if_pos (Place.literal_eq_nil h (by simpa using hc))

/-! ### Tasks -/

/-- Something there is to do in a descent. -/
inductive Task
  /-- Read a factor. -/
  | factor (p : Place)
  /-- Read operands with operators of one kind between them. -/
  | operands (op : Operator) (p : Place)
  /-- Go on after a result, with operators of one kind and operands. -/
  | more (op : Operator) (result : Except Fault Binary64) (p : Place)

/-- The rule for operands with operators of one kind between them. -/
def Operator.rule : Operator → Rule
  | .plus => .expression
  | .times => .term

/-- To read an operand of an operator. -/
def Operator.operand : Operator → Place → Task
  | .plus => .operands .times
  | .times => .factor

/-- To read by a rule. -/
def Rule.task : Rule → Place → Task
  | .expression => .operands .plus
  | .term => .operands .times
  | .factor => .factor

/-- Where a task begins. -/
def Task.place : Task → Place
  | .factor p => p
  | .operands _ p => p
  | .more _ _ p => p

@[simp] theorem Operator.place_operand (op : Operator) (p : Place) : (op.operand p).place = p := by
  cases op <;> rfl

@[simp] theorem Rule.place_task (rule : Rule) (p : Place) : (rule.task p).place = p := by
  cases rule <;> rfl

/-- A task comes to a result at a place, with these events. -/
inductive Yields : Task → Except Fault Binary64 → Place → List Event → Prop
  /-- No factor at the end of the text. -/
  | ended {p} (h : p.skipBlanks.peek? = none) :
    Yields (.factor p) (.error (.unexpectedEnd p.skipBlanks.position)) p.skipBlanks p.factorEvents
  /-- A character that starts no factor. -/
  | noNumber {p c} (h : p.skipBlanks.peek? = some c) (hp : c ≠ '(') (hl : isLiteralChar c = false) :
    Yields (.factor p) (.error (.expectedNumber (some c) p.skipBlanks.position)) p.skipBlanks
      p.factorEvents
  /-- A literal. -/
  | literal {p c} (h : p.skipBlanks.peek? = some c) (hl : isLiteralChar c = true) :
    Yields (.factor p) p.skipBlanks.literalResult p.skipBlanks.skipLiteral
      (p.factorEvents ++ [.scanned (String.ofList p.skipBlanks.literal) p.skipBlanks.position])
  /-- A fault between parentheses. -/
  | innerFault {p fault q es} (h : p.skipBlanks.peek? = some '(')
    (inner : Yields (.operands .plus p.skipBlanks.advance) (.error fault) q es) :
    Yields (.factor p) (.error fault) q
      (p.factorEvents ++ .advanced p.skipBlanks.advance.position :: es)
  /-- A parenthesised expression. -/
  | closed {p value q es} (h : p.skipBlanks.peek? = some '(')
    (inner : Yields (.operands .plus p.skipBlanks.advance) (.ok value) q es)
    (hq : q.peek? = some ')') :
    Yields (.factor p) (.ok value) q.advance
      (p.factorEvents ++ .advanced p.skipBlanks.advance.position :: es ++
        [.advanced q.advance.position])
  /-- A parenthesis that is not closed. -/
  | unclosed {p value q es} (h : p.skipBlanks.peek? = some '(')
    (inner : Yields (.operands .plus p.skipBlanks.advance) (.ok value) q es)
    (hq : q.peek? ≠ some ')') :
    Yields (.factor p) (.error (.expectedClosing q.peek? q.position)) q
      (p.factorEvents ++ .advanced p.skipBlanks.advance.position :: es)
  /-- A first operand, and what comes after it. -/
  | operands {op p first q es result r fs} (operand : Yields (op.operand p) first q es)
    (more : Yields (.more op first q) result r fs) :
    Yields (.operands op p) result r (.entered op.rule p.position :: es ++ fs)
  /-- Nothing comes after a fault. -/
  | fault {op fault p} : Yields (.more op (.error fault) p) (.error fault) p []
  /-- What follows is left to others. -/
  | stop {op value p}
    (h : ∀ c, p.skipBlanks.peek? = some c → c = op.other.symbol ∨ c = ')') :
    Yields (.more op (.ok value) p) (.ok value) p.skipBlanks p.blankEvents
  /-- An operator and one more operand, and what comes after it. -/
  | next {op value p operand q es result r fs} (h : p.skipBlanks.peek? = some op.symbol)
    (right : Yields (op.operand p.skipBlanks.advance) operand q es)
    (more : Yields (.more op (operand.map (op.apply value)) q) result r fs) :
    Yields (.more op (.ok value) p) result r
      (p.blankEvents ++ .advanced p.skipBlanks.advance.position :: es ++ fs)
  /-- A character that may not follow an operand. -/
  | unexpected {op value p c} (h : p.skipBlanks.peek? = some c) (h₁ : c ≠ op.symbol)
    (h₂ : c ≠ op.other.symbol) (h₃ : c ≠ ')') :
    Yields (.more op (.ok value) p) (.error (.unexpectedCharacter c p.skipBlanks.position))
      p.skipBlanks p.blankEvents

/-- A task stops at or after the place where it begins. -/
theorem Yields.leadsTo {t : Task} {result : Except Fault Binary64} {q : Place} {es : List Event}
    (h : Yields t result q es) : t.place.LeadsTo q := by
  induction h with
  | ended _ => exact .skipBlanks _
  | noNumber _ _ _ => exact .skipBlanks _
  | literal _ _ => exact (Place.LeadsTo.skipBlanks _).trans (.skipLiteral _)
  | innerFault _ _ ih => exact (Place.LeadsTo.skipBlanks _).trans ((Place.LeadsTo.advance _).trans ih)
  | closed _ _ _ ih =>
    exact (Place.LeadsTo.skipBlanks _).trans
      ((Place.LeadsTo.advance _).trans (ih.trans (.advance _)))
  | unclosed _ _ _ ih => exact (Place.LeadsTo.skipBlanks _).trans ((Place.LeadsTo.advance _).trans ih)
  | operands _ _ ih₁ ih₂ =>
    rw [Operator.place_operand] at ih₁
    exact ih₁.trans ih₂
  | fault => exact .refl _
  | stop _ => exact .skipBlanks _
  | next _ _ _ ih₁ ih₂ =>
    rw [Operator.place_operand] at ih₁
    exact (Place.LeadsTo.skipBlanks _).trans ((Place.LeadsTo.advance _).trans (ih₁.trans ih₂))
  | unexpected _ _ _ _ => exact .skipBlanks _

/-! ### What the program does is a course -/

/-- A reader comes only to what a task yields. -/
def Follows (read : Place → Option Outcome) (task : Place → Task) : Prop :=
  ∀ p o, read p = some o → Yields (task p) o.result o.place o.trace.events

theorem Follows.readFactor {inner : Place → Option Outcome}
    (h : Follows inner (.operands .plus)) : Follows (SumProduct.readFactor inner) .factor := by
  intro p o ho
  unfold SumProduct.readFactor at ho
  dsimp only at ho
  split at ho
  · next hc =>
    obtain rfl := Option.some.inj ho
    simpa [Place.factorEvents, Place.blankEvents] using Yields.ended hc
  · next c hc =>
    split at ho
    · next hp =>
      subst hp
      obtain ⟨i, hi, rfl⟩ := Option.map_eq_some_iff.1 ho
      have inner := h _ _ hi
      rcases i with ⟨_ | value, q, t⟩
      · simpa [Outcome.closed, Place.factorEvents, Place.blankEvents] using Yields.innerFault hc inner
      · by_cases hq : q.peek? = some ')'
        · simpa [Outcome.closed, hq, Outcome.advance, Place.factorEvents, Place.blankEvents] using
            Yields.closed hc inner hq
        · simpa [Outcome.closed, hq, Outcome.withResult, Place.factorEvents, Place.blankEvents] using
            Yields.unclosed hc inner hq
    · next hp =>
      obtain rfl := Option.some.inj ho
      rw [Outcome.ofLiteral_eq hc]
      split
      · next hl =>
        simpa [Place.factorEvents, Place.blankEvents] using Yields.literal hc hl
      · next hl =>
        simpa [Place.factorEvents, Place.blankEvents] using Yields.noNumber hc hp (by simpa using hl)

/-- Going on after an outcome adds events to it. -/
theorem Follows.readMore {op : Operator} {operand : Place → Option Outcome}
    (h : Follows operand op.operand) (rounds : List Char) (o o' : Outcome)
    (hr : o.place.rest.length ≤ rounds.length) (ho : SumProduct.readMore op operand rounds o = some o') :
    ∃ es, Yields (.more op o.result o.place) o'.result o'.place es ∧
      o'.trace.events = o.trace.events ++ es := by
  induction rounds generalizing o with
  | nil =>
    obtain rfl := Option.some.inj ho
    rcases o with ⟨_ | value, ⟨n, rest⟩, t⟩
    · exact ⟨[], .fault, by simp⟩
    · obtain rfl : rest = [] := List.eq_nil_of_length_eq_zero (Nat.le_zero.1 hr)
      exact ⟨[], .stop (by simp [Place.peek?, Place.skipBlanks]), by simp⟩
  | cons d rounds ih =>
    rcases o with ⟨_ | value, p, t⟩
    · obtain rfl := Option.some.inj ho
      exact ⟨[], .fault, by simp⟩
    · simp only [SumProduct.readMore, Outcome.place_skipBlanks] at ho
      split at ho
      · next hc =>
        obtain rfl := Option.some.inj ho
        exact ⟨p.blankEvents, .stop (by simp [hc]), by simp [Outcome.skipBlanks, Place.blankEvents]⟩
      · next c hc =>
        split at ho
        · next hop =>
          subst hop
          obtain ⟨n, hn, hmore⟩ := Option.bind_eq_some_iff.1 ho
          have right := h _ _ hn
          have hle := right.leadsTo.length_le
          have hlt := Place.length_advance_lt hc
          have hskip := Place.length_skipBlanks_le p
          rw [Operator.place_operand] at hle
          simp only [Outcome.place_advance, Outcome.place_skipBlanks] at hle
          obtain ⟨es, more, hes⟩ := ih _ (by
            simp only [Outcome.combine, List.length_cons] at hr ⊢; omega) hmore
          refine ⟨_, .next hc right more, ?_⟩
          rw [hes]
          simp [Outcome.combine, Outcome.advance, Outcome.skipBlanks, Place.blankEvents]
        · next hop =>
          split at ho
          · next hstop =>
            obtain rfl := Option.some.inj ho
            refine ⟨p.blankEvents, .stop ?_, by simp [Outcome.skipBlanks, Place.blankEvents]⟩
            intro e he
            rw [hc] at he
            exact Option.some.inj he ▸ hstop
          · next hstop =>
            obtain rfl := Option.some.inj ho
            rw [not_or] at hstop
            exact ⟨p.blankEvents, .unexpected hc hop hstop.1 hstop.2,
              by simp [Outcome.withResult, Outcome.skipBlanks, Place.blankEvents]⟩

theorem Follows.readOperands (op : Operator) {operand : Place → Option Outcome}
    (h : Follows operand op.operand) :
    Follows (fun p => SumProduct.readOperands op operand (.single (.entered op.rule p.position)) p)
      (.operands op) := by
  intro p o ho
  obtain ⟨first, hfirst, hmore⟩ := Option.bind_eq_some_iff.1 ho
  obtain ⟨es, more, hes⟩ := Follows.readMore h _ (first.after _) _ (Nat.le_refl _) hmore
  have := Yields.operands (h _ _ hfirst) more
  rw [hes]
  simpa using this

theorem follows_expressionWithin (depth : Nat) :
    Follows (expressionWithin depth) (.operands .plus) := by
  induction depth with
  | zero => exact fun p o ho => nomatch ho
  | succ depth ih => exact .readOperands .plus (.readOperands .times ih.readFactor)

theorem Rule.follows_within (depth : Nat) (rule : Rule) : Follows (rule.within depth) rule.task := by
  have h := follows_expressionWithin depth
  cases rule with
  | expression => exact h
  | term => exact .readOperands .times h.readFactor
  | factor => exact h.readFactor

/-- A rule yields the outcome of its run. -/
theorem Rule.yields_run (rule : Rule) (p : Place) :
    Yields (rule.task p) (rule.run p).result (rule.run p).place (rule.run p).trace.events :=
  rule.follows_within _ _ _ (Option.some_get _).symm

theorem Rule.leadsTo_run (rule : Rule) (p : Place) : p.LeadsTo (rule.run p).place := by
  have h := (rule.yields_run p).leadsTo
  rwa [Rule.place_task] at h

/-! ### Courses do not branch -/

theorem isLiteralChar_openParen : isLiteralChar '(' = false := by decide

/-- A task comes to one result, at one place, with one list of events. -/
theorem Yields.unique {t : Task} {r₁ r₂ : Except Fault Binary64} {q₁ q₂ : Place}
    {es₁ es₂ : List Event} (h₁ : Yields t r₁ q₁ es₁) (h₂ : Yields t r₂ q₂ es₂) :
    r₁ = r₂ ∧ q₁ = q₂ ∧ es₁ = es₂ := by
  induction h₁ generalizing r₂ q₂ es₂ with
  | ended h =>
    cases h₂ with
    | ended _ => exact ⟨rfl, rfl, rfl⟩
    | _ => grind
  | noNumber h hp hl =>
    cases h₂ with
    | _ => grind
  | literal h hl =>
    cases h₂ with
    | literal _ _ => exact ⟨rfl, rfl, rfl⟩
    | _ => grind [isLiteralChar_openParen]
  | innerFault h inner ih =>
    cases h₂ with
    | innerFault _ inner' =>
      obtain ⟨hr, rfl, rfl⟩ := ih inner'
      exact ⟨hr, rfl, rfl⟩
    | closed _ inner' _ | unclosed _ inner' _ => exact nomatch (ih inner').1
    | _ => grind [isLiteralChar_openParen]
  | closed h inner hq ih =>
    cases h₂ with
    | innerFault _ inner' => exact nomatch (ih inner').1
    | closed _ inner' _ =>
      obtain ⟨hr, rfl, rfl⟩ := ih inner'
      exact ⟨hr, rfl, rfl⟩
    | unclosed _ inner' hq' => exact absurd ((ih inner').2.1 ▸ hq) hq'
    | _ => grind [isLiteralChar_openParen]
  | unclosed h inner hq ih =>
    cases h₂ with
    | innerFault _ inner' => exact nomatch (ih inner').1
    | closed _ inner' hq' => exact absurd ((ih inner').2.1 ▸ hq') hq
    | unclosed _ inner' _ =>
      obtain ⟨-, rfl, rfl⟩ := ih inner'
      exact ⟨rfl, rfl, rfl⟩
    | _ => grind [isLiteralChar_openParen]
  | operands _ _ ih₁ ih₂ =>
    cases h₂ with
    | operands operand' more' =>
      obtain ⟨rfl, rfl, rfl⟩ := ih₁ operand'
      obtain ⟨rfl, rfl, rfl⟩ := ih₂ more'
      exact ⟨rfl, rfl, rfl⟩
  | fault => cases h₂; exact ⟨rfl, rfl, rfl⟩
  | @stop op _ _ h =>
    cases h₂ with
    | stop _ => exact ⟨rfl, rfl, rfl⟩
    | next h' _ _ => cases op <;> simpa [Operator.symbol, Operator.other] using h _ h'
    | unexpected h' _ h₂ h₃ => exact absurd (h _ h') (not_or.2 ⟨h₂, h₃⟩)
  | @next op _ _ _ _ _ _ _ _ h _ _ ih₁ ih₂ =>
    cases h₂ with
    | stop h' => cases op <;> simpa [Operator.symbol, Operator.other] using h' _ h
    | next _ right' more' =>
      obtain ⟨rfl, rfl, rfl⟩ := ih₁ right'
      obtain ⟨rfl, rfl, rfl⟩ := ih₂ more'
      exact ⟨rfl, rfl, rfl⟩
    | unexpected h' h₁ _ _ => grind
  | unexpected h h₁ h₂ h₃ =>
    cases ‹Yields (.more _ _ _) r₂ q₂ es₂› with
    | stop h' => exact absurd (h' _ h) (not_or.2 ⟨h₂, h₃⟩)
    | _ => grind

/-- A rule yields what its run comes to, and nothing else. -/
theorem yields_iff_run {rule : Rule} {p q : Place} {result : Except Fault Binary64}
    {es : List Event} :
    Yields (rule.task p) result q es ↔
      (rule.run p).result = result ∧ (rule.run p).place = q ∧ (rule.run p).trace.events = es := by
  constructor
  · exact fun h => (rule.yields_run p).unique h
  · rintro ⟨rfl, rfl, rfl⟩
    exact rule.yields_run p

/-! ### Where rules stop -/

/-- What may stand where a rule stops, if it comes to a value. -/
def Rule.Stops : Rule → Option Char → Prop
  | .factor, _ => True
  | .term, c => c = none ∨ c = some '+' ∨ c = some ')'
  | .expression, c => c = none ∨ c = some ')'

/-- The rule for an operand of an operator. -/
def Operator.operandRule : Operator → Rule
  | .plus => .term
  | .times => .factor

theorem Operator.task_operandRule (op : Operator) : op.operandRule.task = op.operand := by
  cases op <;> rfl

theorem Operator.task_rule (op : Operator) : op.rule.task = .operands op := by
  cases op <;> rfl

/-- What may stand where a task stops, if it comes to a value. -/
def Task.StopsAt : Task → Option Char → Prop
  | .factor _, _ => True
  | .operands op _, c => op.rule.Stops c
  | .more op _ p, c => op.operandRule.Stops p.peek? → op.rule.Stops c

theorem Task.stopsAt_task (rule : Rule) (p : Place) (c : Option Char) :
    (rule.task p).StopsAt c ↔ rule.Stops c := by
  cases rule <;> exact Iff.rfl

theorem Operator.stopsAt_operand (op : Operator) (p : Place) (c : Option Char) :
    (op.operand p).StopsAt c ↔ op.operandRule.Stops c := by
  rw [← op.task_operandRule, Task.stopsAt_task]

/-- No blank comes where a term stops. -/
theorem Place.noneFirst_isBlank_of_stops {p : Place} (h : Rule.term.Stops p.peek?) :
    NoneFirst isBlank p.rest := by
  intro c hc
  rcases h with h | h | h <;> rw [peek?_eq_head?, hc] at h
  · exact nomatch h
  · exact Option.some.inj h ▸ isBlank_marks.1
  · exact Option.some.inj h ▸ isBlank_marks.2.2.2.1

theorem Yields.stopsAt {t : Task} {result : Except Fault Binary64} {q : Place} {es : List Event}
    (h : Yields t result q es) {value : Binary64} (hv : result = .ok value) :
    t.StopsAt q.peek? := by
  induction h generalizing value with
  | ended _ | noNumber _ _ _ | literal _ _ | innerFault _ _ _ | closed _ _ _ _ | unclosed _ _ _ _ =>
    exact trivial
  | @operands op p first q es result r fs _ more ih₁ ih₂ =>
    -- a fault of the first operand would be the result
    cases first with
    | error _ => cases more; exact nomatch hv
    | ok _ => exact ih₂ hv ((op.stopsAt_operand _ _).1 (ih₁ rfl))
  | fault => exact nomatch hv
  | @stop op value p h =>
    intro hp
    cases op with
    | times =>
      rcases hc : p.skipBlanks.peek? with _ | c
      · exact .inl rfl
      · rcases h c hc with rfl | rfl
        · exact .inr (.inl rfl)
        · exact .inr (.inr rfl)
    | plus =>
      -- a term has stopped at the place already, so that no blank comes there
      rw [Place.skipBlanks_eq_self (Place.noneFirst_isBlank_of_stops hp)] at h ⊢
      rcases hp with hp | hp | hp
      · exact .inl hp
      · exact absurd (h _ hp) (by decide)
      · exact .inr hp
  | @next op value p operand q es result r fs _ _ more ih₁ ih₂ =>
    intro _
    cases operand with
    | error _ => cases more; exact nomatch hv
    | ok _ => exact ih₂ hv ((op.stopsAt_operand _ _).1 (ih₁ rfl))
  | unexpected _ _ _ _ => exact nomatch hv

/-- A term that comes to a value stops at a plus sign, a closing parenthesis or the end of
the text, and an expression at one of the last two. -/
theorem Rule.stops_of_yields (rule : Rule) {p q : Place} {value : Binary64} {es : List Event}
    (h : Yields (rule.task p) (.ok value) q es) : rule.Stops q.peek? :=
  (Task.stopsAt_task _ _ _).1 (h.stopsAt rfl)

end SumProduct
