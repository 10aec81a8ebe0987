import Mathlib.Algebra.GroupWithZero.Nat
import SumProduct.Proofs.Evaluation
import SumProduct.Proofs.Walk

/-!
# What the events count

The events of an evaluation are in proportion to the text that has been read. An expression is
entered at the start and behind each opening parenthesis, a term by each expression and behind each
plus sign, a factor by each term and behind each sign of a product. Each factor is in parentheses,
or it is a literal, or it is missing, which ends the evaluation. And each character is passed once,
on its own or in a literal (`events_count_work`). So nothing is read twice, and the number of events
is linear in the length of the text.

The last of this holds of every walk. The rest are laws of conservation for the tasks of a descent:
what the events of a task count, and what the text that is left has, are together what the task has
to begin with (`Yields.entries_eq`, `Yields.factors_eq`). A fault ends a task at any point, and the
laws hold then as well.
-/

namespace SumProduct

/-! ### Kinds of events -/

namespace Event

/-- The event is an entry into the rule. -/
@[simp] def enters (rule : Rule) : Event → Bool
  | .entered first _ => rule = first
  | _ => false

/-- The event is an entry into the rule above, which begins with this one. -/
def entersAbove : Rule → Event → Bool
  | .expression, _ => false
  | .term, e => e.enters .expression
  | .factor, e => e.enters .term

/-- A character is passed on its own. -/
@[simp] def advances : Event → Bool
  | .advanced _ => true
  | _ => false

/-- A literal is read. -/
@[simp] def scans : Event → Bool
  | .scanned _ _ => true
  | _ => false

/-- How many characters are passed in a literal. -/
@[simp] def letters : Event → Nat
  | .scanned literal _ => literal.length
  | _ => 0

variable (rule : Rule) (op : Operator) (n : Nat)

@[simp] theorem entersAbove_operands :
    entersAbove rule (.entered op.rule n) = decide (rule = op.operandRule) := by
  cases op <;> cases rule <;> rfl

@[simp] theorem entersAbove_factor : entersAbove rule (.entered .factor n) = false := by
  cases rule <;> rfl

@[simp] theorem entersAbove_advanced : entersAbove rule (.advanced n) = false := by
  cases rule <;> rfl

@[simp] theorem entersAbove_scanned (literal : String) :
    entersAbove rule (.scanned literal n) = false := by
  cases rule <;> rfl

end Event

namespace Place

variable (p : Place) (rule : Rule)

@[simp] theorem countP_enters_blankEvents : p.blankEvents.countP (Event.enters rule) = 0 := by
  simp [blankEvents, List.countP_eq_zero]

@[simp] theorem countP_entersAbove_blankEvents :
    p.blankEvents.countP (Event.entersAbove rule) = 0 := by
  simp [blankEvents, List.countP_eq_zero]

@[simp] theorem countP_scans_blankEvents : p.blankEvents.countP Event.scans = 0 := by
  simp [blankEvents, List.countP_eq_zero]

@[simp] theorem countP_enters_factorEvents :
    p.factorEvents.countP (Event.enters rule) = if rule = .factor then 1 else 0 := by
  simp [factorEvents]

@[simp] theorem countP_entersAbove_factorEvents :
    p.factorEvents.countP (Event.entersAbove rule) = 0 := by
  simp [factorEvents]

@[simp] theorem countP_scans_factorEvents : p.factorEvents.countP Event.scans = 0 := by
  simp [factorEvents]

end Place

/-! ### Along a walk -/

namespace Walks

variable {p q : Place} {es : List Event}

/-- Each character is passed on its own or in a literal. -/
theorem position_eq (h : Walks p es q) :
    q.position = p.position + (es.countP Event.advances + (es.map Event.letters).sum) := by
  induction h with
  | nil => rfl
  | entered _ ih => simpa using ih
  | advanced hp _ _ ih =>
    rw [ih, (Place.Passes.advance hp).2]
    simp [List.countP_cons]
    omega
  | scanned _ _ ih =>
    rw [ih, (Place.Passes.skipLiteral _).2]
    simp
    omega

/-- No literal is empty. -/
theorem countP_scans_le (h : Walks p es q) :
    es.countP Event.scans ≤ (es.map Event.letters).sum := by
  induction h with
  | nil => exact Nat.le_refl 0
  | entered _ ih | advanced _ _ _ ih => simpa using ih
  | scanned hne _ ih =>
    have hpos := List.length_pos_iff.2 hne
    simp [List.countP_cons]
    omega

/-- Rules are entered, characters passed and literals read, and nothing else happens. -/
theorem length_eq (h : Walks p es q) :
    es.length = es.countP (Event.enters .expression) + es.countP (Event.enters .term) +
      es.countP (Event.enters .factor) + es.countP Event.advances + es.countP Event.scans := by
  induction h with
  | nil => rfl
  | @entered rule _ _ _ _ ih => cases rule <;> simp [ih] <;> omega
  | advanced _ _ _ ih | scanned _ _ ih =>
    simp [List.countP_cons, ih]
    omega

end Walks

/-! ### In the text that is left -/

namespace Place

variable {p : Place} {c d : Char}

theorem count_rest_skipBlanks (h : isBlank c = false) :
    p.skipBlanks.rest.count c = p.rest.count c := by
  have hnone : (p.rest.takeWhile isBlank).count c = 0 := count_eq_zero_of_all List.all_takeWhile h
  rw [(Passes.skipBlanks p).1, List.count_append, hnone, Nat.zero_add]

theorem count_rest_skipLiteral (h : isLiteralChar c = false) :
    p.skipLiteral.rest.count c = p.rest.count c := by
  have hnone : p.literal.count c = 0 := count_eq_zero_of_all List.all_takeWhile h
  rw [(Passes.skipLiteral p).1, List.count_append, hnone, Nat.zero_add]

theorem count_rest_advance (h : p.peek? = some d) (c : Char) :
    p.rest.count c = [d].count c + p.advance.rest.count c := by
  rw [rest_eq_cons h, ← List.singleton_append, List.count_append]

end Place

/-! ### What leads to a rule -/

namespace Rule

/-- The character that the rule is entered behind. -/
def mark : Rule → Char
  | .expression => '('
  | .term => '+'
  | .factor => '*'

variable (rule : Rule)

theorem mark_class : isBlank rule.mark = false ∧ isLiteralChar rule.mark = false := by
  cases rule <;> decide

@[simp] theorem count_mark_open :
    ['('].count rule.mark = if rule = .expression then 1 else 0 := by
  cases rule <;> rfl

@[simp] theorem count_mark_close : [')'].count rule.mark = 0 := by
  cases rule <;> rfl

@[simp] theorem count_mark_symbol (op : Operator) :
    [op.symbol].count rule.mark = if rule = op.operandRule then 1 else 0 := by
  cases rule <;> cases op <;> rfl

end Rule

/-- Whether the result is that an operand is missing, as a number. -/
def missing : Except Fault Binary64 → Nat
  | .error (.expectedNumber _ _) | .error (.unexpectedEnd _) => 1
  | _ => 0

@[simp] theorem missing_ok (value : Binary64) : missing (.ok value) = 0 := rfl

@[simp] theorem missing_map (f : Binary64 → Binary64) (result : Except Fault Binary64) :
    missing (result.map f) = missing result := by
  cases result <;> rfl

@[simp] theorem missing_literalResult (p : Place) : missing p.literalResult = 0 := by
  rw [Place.literalResult]
  cases Literal.value p.literal <;> rfl

/-- It is not the end of the text that an operand is missing at, if there is a value before it. -/
theorem missing_ended (o : Outcome) : missing o.ended.result = missing o.result := by
  cases hresult : o.result with
  | error fault => rw [Outcome.ended_of_error hresult]
  | ok value =>
    rcases Outcome.ended_eq_ok_or hresult with hended | ⟨_, -, hended⟩
    · rw [hended]
    · rw [hended]
      rfl

namespace Task

/-- How often the task enters the rule of itself, and not behind its mark or by the rule above. -/
def entries (rule : Rule) : Task → Nat
  | .factor _ => if rule = .factor then 1 else 0
  | .operands op _ => if rule = op.rule then 1 else 0
  | .more _ _ _ => 0

/-- Whether an operand was missing before the task, as a number. -/
def missing : Task → Nat
  | .more _ first _ => SumProduct.missing first
  | _ => 0

variable (rule : Rule) (op : Operator) (first : Except Fault Binary64) (p : Place)

@[simp] theorem place_factor : (factor p).place = p := rfl

@[simp] theorem place_operands : (operands op p).place = p := rfl

@[simp] theorem place_more : (more op first p).place = p := rfl

@[simp] theorem entries_factor : (factor p).entries rule = if rule = .factor then 1 else 0 := rfl

@[simp] theorem entries_operands :
    (operands op p).entries rule = if rule = op.rule then 1 else 0 := rfl

theorem entries_expression :
    (operands .plus p).entries rule = if rule = .expression then 1 else 0 := rfl

@[simp] theorem entries_more : (more op first p).entries rule = 0 := rfl

@[simp] theorem entries_operand :
    (op.operand p).entries rule = if rule = op.operandRule then 1 else 0 := by
  cases op <;> rfl

@[simp] theorem missing_factor : (factor p).missing = 0 := rfl

@[simp] theorem missing_operands : (operands op p).missing = 0 := rfl

@[simp] theorem missing_more : (more op first p).missing = SumProduct.missing first := rfl

@[simp] theorem missing_operand : (op.operand p).missing = 0 := by
  cases op <;> rfl

end Task

/-! ### Laws of conservation -/

section Conservation

variable {t : Task} {result : Except Fault Binary64} {q : Place} {es : List Event}

/-- **Entries**: a rule is entered once for each of its marks that is passed, once by each entry
into the rule above, and by the task itself. -/
theorem Yields.entries_eq (h : Yields t result q es) (rule : Rule) :
    es.countP (Event.enters rule) + q.rest.count rule.mark =
      t.entries rule + es.countP (Event.entersAbove rule) + t.place.rest.count rule.mark := by
  have hblanks (p : Place) : p.skipBlanks.rest.count rule.mark = p.rest.count rule.mark :=
    Place.count_rest_skipBlanks rule.mark_class.1
  have hliteral (p : Place) : p.skipLiteral.rest.count rule.mark = p.rest.count rule.mark :=
    Place.count_rest_skipLiteral rule.mark_class.2
  induction h with
  | ended _ | noNumber _ _ _ | stop _ | unexpected _ _ _ _ => simp [hblanks]
  | literal _ _ => simp [hblanks, hliteral]
  | innerFault h _ ih | unclosed h _ _ ih =>
    have hopen := Place.count_rest_advance h rule.mark
    rw [Task.entries_expression] at ih
    simp [hblanks] at ih hopen ⊢
    omega
  | closed h _ hq ih =>
    have hopen := Place.count_rest_advance h rule.mark
    have hclose := Place.count_rest_advance hq rule.mark
    rw [Task.entries_expression] at ih
    simp [hblanks] at ih hopen hclose ⊢
    omega
  | operands _ _ ih₁ ih₂ =>
    simp [List.countP_cons] at ih₁ ih₂ ⊢
    omega
  | fault => simp
  | next h _ _ ih₁ ih₂ =>
    have hsymbol := Place.count_rest_advance h rule.mark
    simp [hblanks] at ih₁ ih₂ hsymbol ⊢
    omega

/-- **Factors**: each factor that is entered is a literal, or it has an opening parenthesis that is
passed, or it is missing. -/
theorem Yields.factors_eq (h : Yields t result q es) :
    es.countP Event.scans + t.place.rest.count '(' + missing result =
      es.countP (Event.enters .factor) + q.rest.count '(' + t.missing := by
  have hblanks (p : Place) : p.skipBlanks.rest.count '(' = p.rest.count '(' :=
    Place.count_rest_skipBlanks (by decide)
  have hliteral (p : Place) : p.skipLiteral.rest.count '(' = p.rest.count '(' :=
    Place.count_rest_skipLiteral (by decide)
  induction h with
  | ended _ | noNumber _ _ _ | stop _ | unexpected _ _ _ _ => simp [hblanks, missing, Nat.add_comm]
  | literal _ _ => simp [hblanks, hliteral, Nat.add_comm]
  | innerFault h _ ih | unclosed h _ _ ih =>
    have hopen := Place.count_rest_advance h '('
    simp [hblanks, missing] at ih hopen ⊢
    omega
  | closed h _ hq ih =>
    have hopen := Place.count_rest_advance h '('
    have hclose := Place.count_rest_advance hq '('
    simp [hblanks] at ih hopen hclose ⊢
    omega
  | @operands op _ _ _ _ _ _ _ _ _ ih₁ ih₂ =>
    have hrule : Rule.factor ≠ op.rule := by cases op <;> decide
    simp [hrule] at ih₁ ih₂ ⊢
    omega
  | fault => simp
  | @next op _ _ _ _ _ _ _ _ h _ _ ih₁ ih₂ =>
    have hsymbol := Place.count_rest_advance h '('
    have hnone : op.symbol ≠ '(' := by cases op <;> decide
    simp [hblanks, hnone] at ih₁ ih₂ hsymbol ⊢
    omega

end Conservation

/-! ### Reading an expression -/

/-- The characters behind which rules are entered are among those of the text. -/
theorem count_marks_le (x : List Char) : x.count '(' + x.count '+' + x.count '*' ≤ x.length := by
  induction x with
  | nil => exact Nat.le_refl 0
  | cons c x ih =>
    have hone : [c].count '(' + [c].count '+' + [c].count '*' ≤ 1 := by grind
    rw [← List.singleton_append]
    simp only [List.count_append, List.length_append, List.length_singleton]
    omega

/-- What the events of reading an expression count, against what is passed of the text. -/
theorem Rule.counts_run (text : List Char) :
    let o := Rule.expression.run (.start text)
    let events := o.trace.events
    let passed := text.take o.place.position
    events.countP (Event.enters .expression) = 1 + passed.count '(' ∧
      events.countP (Event.enters .term) =
        events.countP (Event.enters .expression) + passed.count '+' ∧
      events.countP (Event.enters .factor) =
        events.countP (Event.enters .term) + passed.count '*' ∧
      events.countP Event.advances + (events.map Event.letters).sum = o.place.position ∧
      events.countP Event.scans + passed.count '(' + missing o.result =
        events.countP (Event.enters .factor) ∧
      events.length ≤ 4 * text.length + 3 := by
  intro o events passed
  have hrun : Yields _ o.result o.place events := Rule.expression.yields_run (.start text)
  have hleads := Rule.expression.leadsTo_run (.start text)
  have hrest : o.place.rest = text.drop o.place.position := hleads.rest_eq_drop rfl
  have htext (c : Char) : text.count c = passed.count c + o.place.rest.count c := by
    rw [hrest, ← List.count_append, List.take_append_drop]
  have hnone : events.countP (fun _ => false) = 0 := by simp
  have hexpressions : events.countP (Event.enters .expression) + o.place.rest.count '(' =
      1 + events.countP (fun _ => false) + text.count '(' := hrun.entries_eq .expression
  have hterms : events.countP (Event.enters .term) + o.place.rest.count '+' =
      0 + events.countP (Event.enters .expression) + text.count '+' := hrun.entries_eq .term
  have hfactors : events.countP (Event.enters .factor) + o.place.rest.count '*' =
      0 + events.countP (Event.enters .term) + text.count '*' := hrun.entries_eq .factor
  have hliterals : events.countP Event.scans + text.count '(' + missing o.result =
      events.countP (Event.enters .factor) + o.place.rest.count '(' + 0 := hrun.factors_eq
  have hposition : o.place.position =
      0 + (events.countP Event.advances + (events.map Event.letters).sum) := hrun.walks.position_eq
  rw [htext] at hexpressions hterms hfactors hliterals
  -- for the last part: as many events as there are characters, and three entries for each mark
  have hscans := hrun.walks.countP_scans_le
  have hlength := hrun.walks.length_eq
  have hmarks := count_marks_le passed
  have hpassed : passed.length ≤ o.place.position := List.length_take_le _ _
  have hle : o.place.position + o.place.rest.length = 0 + text.length := hleads.position_add_length
  refine ⟨?_, ?_, ?_, ?_, ?_, ?_⟩ <;> omega

/-! ### Evaluation -/

/-- The start and the end of an evaluation are events of other kinds. -/
theorem countP_evaluate {f : Event → Bool} {s : String} (h : s.toList.all isBlank = false)
    (hstart : f (.evaluating s) = false) (hend : ∀ result, f (Event.ofResult result) = false) :
    (Reading.ofString s).evaluate.trace.events.countP f =
      (Rule.expression.run (.start s.toList)).trace.events.countP f := by
  simp [events_evaluate h, hstart, hend]

/-- **The events count the work** of evaluating a text that is not blank. In the part of the text
that has been read there are as many opening parentheses, plus signs and signs of products as there
are expressions but for one, terms but for one in each expression, and factors but for one in each
term. The characters that are passed on their own and those of the literals make up this part. All
factors but those in parentheses, and but for one that is missing, are literals. So there are at
most four events for each character of the text, and five more. -/
theorem events_count_work {s : String} (h : s.toList.all isBlank = false) :
    let o := (Reading.ofString s).evaluate
    let events := o.trace.events
    let passed := s.toList.take o.place.position
    events.countP (Event.enters .expression) = 1 + passed.count '(' ∧
      events.countP (Event.enters .term) =
        events.countP (Event.enters .expression) + passed.count '+' ∧
      events.countP (Event.enters .factor) =
        events.countP (Event.enters .term) + passed.count '*' ∧
      events.countP Event.advances + (events.map Event.letters).sum = o.place.position ∧
      events.countP Event.scans + passed.count '(' + missing o.result =
        events.countP (Event.enters .factor) ∧
      events.length ≤ 4 * s.length + 5 := by
  have henters (rule : Rule) := countP_evaluate (f := Event.enters rule) h rfl fun result => by
    cases result <;> rfl
  have hadvances := countP_evaluate (f := Event.advances) h rfl fun result => by
    cases result <;> rfl
  have hscans := countP_evaluate (f := Event.scans) h rfl fun result => by cases result <;> rfl
  have hletters : ((Reading.ofString s).evaluate.trace.events.map Event.letters).sum =
      ((Rule.expression.run (.start s.toList)).trace.events.map Event.letters).sum := by
    rw [events_evaluate h]
    cases evaluate s <;> simp [Event.ofResult]
  have hlength : (Reading.ofString s).evaluate.trace.events.length =
      (Rule.expression.run (.start s.toList)).trace.events.length + 2 := by
    rw [events_evaluate h, List.length_cons, List.length_append, List.length_singleton]
  have hmissing : missing (Reading.ofString s).evaluate.result =
      missing (Rule.expression.run (.start s.toList)).result :=
    (congrArg missing (evaluate_of_not_blank h)).trans (missing_ended _)
  obtain ⟨hexpressions, hterms, hfactors, hposition, hliterals, hbound⟩ :=
    Rule.counts_run s.toList
  dsimp only
  rw [henters, henters, henters, hadvances, hscans, hletters, hlength, hmissing, place_evaluate h]
  rw [String.length_toList] at hbound
  exact ⟨hexpressions, hterms, hfactors, hposition, hliterals, by omega⟩

theorem events_count_work_unfinished :
    let o := (Reading.ofString "2*(3.5+").evaluate
    "2*(3.5+".toList.all isBlank = false ∧ o.place.position = 7 ∧ missing o.result = 1 ∧
      o.trace.events.countP (Event.enters .factor) = 4 ∧
      o.trace.events.countP Event.scans = 2 ∧ o.trace.events.length ≤ 33 := by
  have h : "2*(3.5+".toList.all isBlank = false := by decide
  have hplace : (Reading.ofString "2*(3.5+").evaluate.place.position = 7 := rfl
  have hmissing : missing (Reading.ofString "2*(3.5+").evaluate.result = 1 := rfl
  obtain ⟨hexpressions, hterms, hfactors, -, hliterals, hlength⟩ := events_count_work h
  rw [hplace] at hexpressions hterms hfactors hliterals
  have hopen : ("2*(3.5+".toList.take 7).count '(' = 1 := by decide
  have hplus : ("2*(3.5+".toList.take 7).count '+' = 1 := by decide
  have htimes : ("2*(3.5+".toList.take 7).count '*' = 1 := by decide
  have hsize : "2*(3.5+".length = 7 := by decide
  exact ⟨h, hplace, hmissing, by omega, by omega, by omega⟩

end SumProduct
