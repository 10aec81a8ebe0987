import SumProduct.Proofs.Evaluation
import SumProduct.Proofs.StackMachine.Moves

/-!
# The stack machine agrees with the descent

A rule of the descent and the machine read the same text with the same outcome. The
machine keeps in its frame what the calls of the rules keep: a factor is multiplied into
the frame that is there, a term starts from a frame without a product, and an expression
from an empty one, whose sum and product together are its value in the end
(`Rule.Leaves`). Every course of a descent is simulated by moves of the machine
(`simulates_of_yields`), on top of whatever frames are on the stack, and a fault of a rule is
the machine's answer.
-/

namespace SumProduct.StackMachine

open Machine Relation

/-- The frames in which a rule is read. -/
def Fits : Rule → Frame → Prop
  | .factor, _ => True
  | .term, frame => frame.product = none
  | .expression, frame => frame = .empty

/-- What the machine expects after a rule has been read in a frame with a value. -/
def Leaves (rule : Rule) (frame : Frame) (value : Binary64) (mode : Mode) : Prop :=
  match rule with
  | .factor => mode = .operator frame.sum (frame.times value)
  | .term => mode = .operator frame.sum value
  | .expression => ∃ sum product, mode = .operator sum product ∧ total sum product = value

/-- The machine comes to the result of a rule at a place: it expects an operator after a
value, and answers with a fault. -/
def Comes (m : Machine) (rule : Rule) (frame : Frame) (result : Except Fault Binary64)
    (q : Place) : Prop :=
  match result with
  | .ok value => ∃ mode, Leaves rule frame value mode ∧ Steps m ⟨mode, m.stack, q⟩
  | .error fault => m.answer = .error fault

/-- What the machine does for a task. -/
def Simulates (result : Except Fault Binary64) (q : Place) : Task → Prop
  | .factor p => ∀ frame stack, Comes ⟨.operand frame, stack, p⟩ .factor frame result q
  | .operands op p => ∀ frame stack, Fits op.rule frame →
      Comes ⟨.operand frame, stack, p⟩ op.rule frame result q
  | .more op first p => ∀ frame stack mode value, Fits op.rule frame → first = .ok value →
      op.operandRule.Stops p.peek? → Leaves op.rule frame value mode →
      Comes ⟨mode, stack, p⟩ op.rule frame result q

theorem Comes.head {m m' : Machine} {rule : Rule} {frame : Frame}
    {result : Except Fault Binary64} {q : Place} (hs : Steps m m') (hstack : m'.stack = m.stack)
    (h : Comes m' rule frame result q) : Comes m rule frame result q := by
  cases result with
  | error fault => exact hs.answer_eq.trans h
  | ok value =>
    obtain ⟨mode, hl, hs'⟩ := h
    exact ⟨mode, hl, hs.trans (hstack ▸ hs')⟩

/-- The machine passes blanks in every mode. -/
theorem steps_skipBlanks (mode : Mode) (stack : List Frame) (p : Place) :
    Steps ⟨mode, stack, p⟩ ⟨mode, stack, p.skipBlanks⟩ := by
  rcases p with ⟨n, rest⟩
  induction rest generalizing n with
  | nil => exact .refl
  | cons c rest ih =>
    cases hc : isBlank c with
    | false =>
      rw [Place.skipBlanks_eq_self (.cons hc)]
      exact .refl
    | true =>
      rw [Place.skipBlanks_cons hc]
      exact .head (.blank rfl hc) (ih (n + 1))

/-- After an operand the machine expects an operator. -/
theorem Leaves.operator {op : Operator} {frame : Frame} {value : Binary64} {mode : Mode}
    (h : Leaves op.rule frame value mode) : ∃ sum product, mode = .operator sum product := by
  cases op with
  | plus =>
    obtain ⟨sum, product, rfl, -⟩ := h
    exact ⟨sum, product, rfl⟩
  | times => exact ⟨_, _, h⟩

/-- The frame of a rule for operands is one for its first operand. -/
theorem Fits.operand {op : Operator} {frame : Frame} (h : Fits op.rule frame) :
    Fits op.operandRule frame := by
  cases op with
  | plus =>
    obtain rfl : frame = .empty := h
    rfl
  | times => trivial

/-- The first operand alone has the value of all the operands so far. -/
theorem Leaves.first {op : Operator} {frame : Frame} {value : Binary64} {mode : Mode}
    (hf : Fits op.rule frame) (h : Leaves op.operandRule frame value mode) :
    Leaves op.rule frame value mode := by
  cases op with
  | plus =>
    obtain rfl : frame = .empty := hf
    exact ⟨none, value, h, rfl⟩
  | times =>
    rcases frame with ⟨sum, product⟩
    obtain rfl : product = none := hf
    exact h

/-- At an operator the machine moves to a frame for one more operand, and with its value
in that frame it has the value of all the operands so far. -/
theorem Leaves.next {op : Operator} {frame : Frame} {value : Binary64} {mode : Mode}
    (h : Leaves op.rule frame value mode) {p : Place} (hp : p.peek? = some op.symbol)
    (stack : List Frame) :
    ∃ frame', Fits op.operandRule frame' ∧
      Moves ⟨mode, stack, p⟩ ⟨.operand frame', stack, p.advance⟩ ∧
      ∀ w mode', Leaves op.operandRule frame' w mode' →
        Leaves op.rule frame (op.apply value w) mode' := by
  cases op with
  | plus =>
    obtain ⟨sum, product, rfl, rfl⟩ := h
    exact ⟨⟨some (total sum product), none⟩, rfl, .plus hp, fun w mode' h' => ⟨_, _, h', rfl⟩⟩
  | times =>
    obtain rfl := h
    exact ⟨⟨frame.sum, some value⟩, trivial, .times hp, fun w mode' h' => h'⟩

theorem Simulates.operand {op : Operator} {result : Except Fault Binary64} {p q : Place}
    (h : Simulates result q (op.operand p)) {frame : Frame} (stack : List Frame)
    (hf : Fits op.operandRule frame) :
    Comes ⟨.operand frame, stack, p⟩ op.operandRule frame result q := by
  cases op with
  | plus => exact h frame stack hf
  | times => exact h frame stack

/-- **Simulation**: what a task of the descent yields, the machine comes to. -/
theorem simulates_of_yields {t : Task} {result : Except Fault Binary64} {q : Place}
    {es : List Event} (h : Yields t result q es) : Simulates result q t := by
  induction h with
  | @ended p h =>
    intro frame stack
    exact (steps_skipBlanks _ _ p).answer_eq.trans (Halts.unexpectedEnd h).answer_eq
  | @noNumber p c h hp hl =>
    intro frame stack
    exact (steps_skipBlanks _ _ p).answer_eq.trans
      (Halts.noNumber h (Place.peek?_skipBlanks h) hp hl).answer_eq
  | @literal p c h hl =>
    intro frame stack
    refine Comes.head (steps_skipBlanks _ _ p) rfl ?_
    cases hv : Literal.value p.skipBlanks.literal with
    | error defect =>
      rw [Place.literalResult, hv]
      exact (Halts.badLiteral h hl hv).answer_eq
    | ok value =>
      rw [Place.literalResult, hv]
      exact ⟨_, rfl, .single (.literal h hl hv)⟩
  | @innerFault p fault q es h _ ih =>
    intro frame stack
    exact (steps_skipBlanks _ _ p).answer_eq.trans
      ((Steps.answer_eq (.single (.opens h))).trans (ih .empty (frame :: stack) rfl))
  | @closed p value q es h _ hq ih =>
    intro frame stack
    obtain ⟨mode, ⟨sum, product, rfl, rfl⟩, hs⟩ := ih .empty (frame :: stack) rfl
    refine Comes.head (steps_skipBlanks _ _ p) rfl ⟨_, rfl, ?_⟩
    exact .head (.opens h) (hs.trans (.single (.closes hq)))
  | @unclosed p value q es h inner hq ih =>
    intro frame stack
    obtain ⟨mode, ⟨sum, product, rfl, rfl⟩, hs⟩ := ih .empty (frame :: stack) rfl
    -- an expression stops only at a closing parenthesis or at the end
    have hend : q.peek? = none := (Rule.expression.stops_of_yields inner).resolve_right hq
    rw [hend]
    exact (steps_skipBlanks _ _ p).answer_eq.trans
      ((Steps.answer_eq (.head (.opens h) hs)).trans (Halts.unclosed hend).answer_eq)
  | @operands op p first q es result r fs operand more ih₁ ih₂ =>
    intro frame stack hf
    cases first with
    | error fault =>
      cases more
      exact ih₁.operand stack hf.operand
    | ok value =>
      obtain ⟨mode, hl, hs⟩ := ih₁.operand stack hf.operand
      have hstop := (op.stopsAt_operand _ _).1 (operand.stopsAt rfl)
      exact Comes.head hs rfl (ih₂ frame stack mode value hf rfl hstop (hl.first hf))
  | fault =>
    intro frame stack mode value _ hv
    exact nomatch hv
  | @stop op value p h =>
    intro frame stack mode v _ hv _ hl
    obtain rfl := Except.ok.inj hv
    exact ⟨mode, hl, steps_skipBlanks _ _ p⟩
  | @next op value p operand q es result r fs h right more ih₁ ih₂ =>
    intro frame stack mode v hf hv _ hl
    obtain rfl := Except.ok.inj hv
    obtain ⟨frame', hf', hmove, hleaves⟩ := hl.next h stack
    refine Comes.head ((steps_skipBlanks _ _ p).tail hmove) rfl ?_
    cases operand with
    | error fault =>
      cases more
      exact ih₁.operand stack hf'
    | ok w =>
      obtain ⟨mode', hl', hs⟩ := ih₁.operand stack hf'
      have hstop := (op.stopsAt_operand _ _).1 (right.stopsAt rfl)
      exact Comes.head hs rfl (ih₂ frame stack mode' _ hf rfl hstop (hleaves _ _ hl'))
  | @unexpected op value p c h h₁ h₂ h₃ =>
    intro frame stack mode v _ _ _ hl
    obtain ⟨sum, product, rfl⟩ := hl.operator
    refine (steps_skipBlanks _ _ p).answer_eq.trans (Halts.answer_eq ?_)
    have hb := Place.peek?_skipBlanks h
    cases op with
    | plus => exact .unexpected h hb h₂ h₁ fun hc => absurd hc h₃
    | times => exact .unexpected h hb h₁ h₂ fun hc => absurd hc h₃

/-! ### Evaluation -/

/-- The machine answers for a text what reading it as an expression to its end comes to. -/
theorem answer_start (text : List Char) :
    (Machine.start text).answer = (Rule.expression.run (.start text)).ended.result := by
  have h := simulates_of_yields (Rule.expression.yields_run (.start text)) .empty [] rfl
  have hstops {value : Binary64} (hv : (Rule.expression.run (.start text)).result = .ok value) :=
    Rule.expression.stops_of_yields (hv ▸ Rule.expression.yields_run (.start text))
  generalize Rule.expression.run (.start text) = o at h hstops
  rcases o with ⟨fault | value, q, trace⟩
  · exact h
  · obtain ⟨mode, ⟨sum, product, rfl, rfl⟩, hs⟩ := h
    refine Steps.answer_eq hs |>.trans (Halts.answer_eq ?_)
    rcases hstops rfl with hq | hq
    · simp only [Outcome.ended, hq]
      exact .value hq
    · simp only [Outcome.ended, hq]
      exact .unexpected hq isBlank_marks.2.2.2.1 (by decide) (by decide) fun _ => rfl

/-- A text that is not blank has the result that the machine answers. -/
theorem evaluate_eq_answer {s : String} (h : s.toList.all isBlank = false) :
    SumProduct.evaluate s = (Machine.start s.toList).answer := by
  rw [evaluate_of_not_blank h, answer_start]

/-- **Two evaluators, one meaning**: the descent through the rules and the machine with a
stack come to the same value or the same fault on every text. -/
theorem evaluate_eq_stackMachine (s : String) :
    SumProduct.evaluate s = StackMachine.evaluate s := by
  unfold StackMachine.evaluate
  dsimp only
  split
  · next hb => exact evaluate_of_blank hb
  · next hb => exact evaluate_eq_answer (by simpa using hb)

/-!
### Where literals are read

Wherever a rule of the descent reads a literal, the machine comes by, and expects an operand there
(`meets_of_yields`). So what is known about the machine before an operand is known about every
literal that an evaluation reports.
-/

section Scanning

/-- The machine gets to the literal and expects an operand there. -/
def Meets (literal : String) (n : Nat) (m : Machine) : Prop :=
  ∃ frame stack p, Steps m ⟨.operand frame, stack, p⟩ ∧ p.position = n ∧
    String.ofList p.literal = literal

/-- The machine gets to the literal where it does what the task does. -/
def MeetsIn (literal : String) (n : Nat) : Task → Prop
  | .factor p => ∀ frame stack, Meets literal n ⟨.operand frame, stack, p⟩
  | .operands op p => ∀ frame stack, Fits op.rule frame →
      Meets literal n ⟨.operand frame, stack, p⟩
  | .more op first p => ∀ frame stack mode value, Fits op.rule frame → first = .ok value →
      op.operandRule.Stops p.peek? → Leaves op.rule frame value mode →
      Meets literal n ⟨mode, stack, p⟩

variable {literal : String} {n : Nat}

theorem Meets.head {m m' : Machine} (hs : Steps m m') (h : Meets literal n m') :
    Meets literal n m := by
  obtain ⟨frame, stack, p, hs', hp⟩ := h
  exact ⟨frame, stack, p, hs.trans hs', hp⟩

theorem MeetsIn.operand {op : Operator} {p : Place} (h : MeetsIn literal n (op.operand p))
    {frame : Frame} (stack : List Frame) (hf : Fits op.operandRule frame) :
    Meets literal n ⟨.operand frame, stack, p⟩ := by
  cases op with
  | plus => exact h frame stack hf
  | times => exact h frame stack

/-- No literal is read while blanks are passed. -/
theorem scanned_notMem_blankEvents (p : Place) : Event.scanned literal n ∉ p.blankEvents := by
  simp [Place.blankEvents]

theorem scanned_notMem_factorEvents (p : Place) : Event.scanned literal n ∉ p.factorEvents := by
  simp [Place.factorEvents, scanned_notMem_blankEvents]

/-- **Where a literal is read** the machine expects an operand. -/
theorem meets_of_yields {t : Task} {result : Except Fault Binary64} {q : Place} {es : List Event}
    (h : Yields t result q es) (hmem : .scanned literal n ∈ es) : MeetsIn literal n t := by
  induction h with
  | ended _ | noNumber _ _ _ => exact absurd hmem (scanned_notMem_factorEvents _)
  | fault => exact absurd hmem List.not_mem_nil
  | stop _ | unexpected _ _ _ _ => exact absurd hmem (scanned_notMem_blankEvents _)
  | @literal p c h hl =>
    intro frame stack
    simp only [List.mem_append, scanned_notMem_factorEvents, List.mem_singleton, false_or,
      Event.scanned.injEq] at hmem
    obtain ⟨rfl, rfl⟩ := hmem
    exact ⟨frame, stack, p.skipBlanks, steps_skipBlanks _ _ p, rfl, rfl⟩
  | @innerFault p fault q es h _ ih | @unclosed p value q es h _ _ ih | @closed p value q es h _ _ ih =>
    intro frame stack
    have hinner : .scanned literal n ∈ es := by
      simpa [scanned_notMem_factorEvents] using hmem
    exact (ih hinner .empty (frame :: stack) rfl).head ((steps_skipBlanks _ _ p).tail (.opens h))
  | @operands op p first q es result r fs operand more ih₁ ih₂ =>
    intro frame stack hf
    have hparts : .scanned literal n ∈ es ∨ .scanned literal n ∈ fs := by simpa using hmem
    rcases hparts with hes | hfs
    · exact (ih₁ hes).operand stack hf.operand
    · cases first with
      | error _ =>
        cases more
        exact absurd hfs List.not_mem_nil
      | ok value =>
        obtain ⟨mode, hl, hs⟩ := (simulates_of_yields operand).operand stack hf.operand
        have hstop := (op.stopsAt_operand _ _).1 (operand.stopsAt rfl)
        exact (ih₂ hfs frame stack mode value hf rfl hstop (hl.first hf)).head hs
  | @next op value p operand q es result r fs h right more ih₁ ih₂ =>
    intro frame stack mode v hf hv _ hl
    obtain rfl := Except.ok.inj hv
    obtain ⟨frame', hf', hmove, hleaves⟩ := hl.next h stack
    refine Meets.head ((steps_skipBlanks _ _ p).tail hmove) ?_
    have hparts : .scanned literal n ∈ es ∨ .scanned literal n ∈ fs := by
      simpa [scanned_notMem_blankEvents] using hmem
    rcases hparts with hes | hfs
    · exact (ih₁ hes).operand stack hf'
    · cases operand with
      | error _ =>
        cases more
        exact absurd hfs List.not_mem_nil
      | ok w =>
        obtain ⟨mode', hl', hs⟩ := (simulates_of_yields right).operand stack hf'
        have hstop := (op.stopsAt_operand _ _).1 (right.stopsAt rfl)
        exact (ih₂ hfs frame stack mode' _ hf rfl hstop (hleaves _ _ hl')).head hs

end Scanning

end SumProduct.StackMachine
