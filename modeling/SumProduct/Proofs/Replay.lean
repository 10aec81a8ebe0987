import SumProduct.Proofs.Evaluation
import SumProduct.Proofs.Faults.Stops
import SumProduct.Proofs.Walk

/-!
# The trace replays the evaluation

What an evaluation reports of itself can be followed on the text alone, without a rule of the
grammar. The replay keeps a position, starts with zero and takes one report after the other: a rule
is entered at the position, an advance passes the character there, and a literal that was scanned is
the longest run of digits and points there and is passed as a whole. No other report can be taken.
So every character that was read was read once, and in order.

A report is what others see of an event: a message and fields with names, numbers in decimal.

The reports of an evaluation are those of its start, some that can be replayed, and that of its
end. The replay gets to the end of the text if there is a value, and otherwise to where the fault
was found, or behind the literal if that is the fault (`trace_replays_evaluation`).
-/

namespace SumProduct

instance (c : Char) : Decidable (IsPassed c) := inferInstanceAs (Decidable (_ ∨ _))

/-! ### Reports -/

/-- A message with its particulars. -/
structure Notice where
  /-- What happened. -/
  message : String
  /-- The particulars, by name. -/
  fields : List (String × String)
  deriving DecidableEq

/-- What is seen of an event. -/
def Event.notice (e : Event) : Notice := ⟨e.message, e.fields⟩

/-- The notice that ends an evaluation. -/
def Notice.ofResult : Except Fault Binary64 → Notice
  | .ok value => ⟨"evaluation finished", [("value", value.text)]⟩
  | .error fault => ⟨"evaluation failed", [("error", fault.message)]⟩

/-- Where a notice leads to from a position of the text; nothing if it cannot be taken there. -/
def Notice.next? (text : List Char) (n : Nat) : Notice → Option Nat
  | ⟨"expression", [("cursor", cursor)]⟩ | ⟨"term", [("cursor", cursor)]⟩
  | ⟨"factor", [("cursor", cursor)]⟩ => if cursor = Nat.repr n then some n else none
  | ⟨"advance", [("cursor", cursor)]⟩ =>
    match text[n]? with
    | some c => if IsPassed c ∧ cursor = Nat.repr (n + 1) then some (n + 1) else none
    | none => none
  | ⟨"scanned literal", [("literal", literal), ("start", start)]⟩ =>
    let run := (text.drop n).takeWhile isLiteralChar
    if run ≠ [] ∧ literal = String.ofList run ∧ start = Nat.repr n then some (n + run.length)
    else none
  | _ => none

/-- Where notices lead to, taken one after the other from a position of the text. -/
def replay? (text : List Char) (n : Nat) (notices : List Notice) : Option Nat :=
  notices.foldlM (Notice.next? text) n

theorem replay?_cons {text : List Char} {n m : Nat} {first : Notice} (notices : List Notice)
    (h : first.next? text n = some m) :
    replay? text n (first :: notices) = replay? text m notices := by
  rw [replay?, List.foldlM_cons, h]
  rfl

theorem Notice.next?_entered (text : List Char) (rule : Rule) (n : Nat) :
    (Event.entered rule n).notice.next? text n = some n := by
  cases rule <;> exact if_pos rfl

theorem Notice.next?_advanced {text : List Char} {n : Nat} {c : Char} (h : text[n]? = some c)
    (hc : IsPassed c) : (Event.advanced (n + 1)).notice.next? text n = some (n + 1) := by
  have hstep : (Event.advanced (n + 1)).notice.next? text n =
      match text[n]? with
      | some c => if IsPassed c ∧ Nat.repr (n + 1) = Nat.repr (n + 1) then some (n + 1) else none
      | none => none := rfl
  rw [hstep, h]
  exact if_pos ⟨hc, rfl⟩

theorem Notice.next?_scanned {text : List Char} {n : Nat}
    (h : (text.drop n).takeWhile isLiteralChar ≠ []) :
    (Event.scanned (String.ofList ((text.drop n).takeWhile isLiteralChar)) n).notice.next? text n =
      some (n + ((text.drop n).takeWhile isLiteralChar).length) :=
  if_pos ⟨h, rfl, rfl⟩

/-- A walk is replayed. -/
theorem Walks.replay {text : List Char} {p q : Place} {es : List Event} (h : Walks p es q)
    (hp : p.rest = text.drop p.position) :
    replay? text p.position (es.map Event.notice) = some q.position := by
  induction h with
  | nil => rfl
  | @entered rule p es q _ ih =>
    rw [List.map_cons, replay?_cons _ (Notice.next?_entered text rule p.position)]
    exact ih hp
  | @advanced p c es q hpeek hc _ ih =>
    have hget : text[p.position]? = some c := by
      rw [← List.head?_drop, ← hp]
      exact hpeek
    have hposition : p.advance.position = p.position + 1 := by
      rcases p with ⟨n, _ | ⟨d, rest⟩⟩
      · exact nomatch hpeek
      · rfl
    have hrest := (Place.LeadsTo.advance p).rest_eq_drop hp
    rw [List.map_cons, hposition, replay?_cons _ (Notice.next?_advanced hget hc), ← hposition]
    exact ih hrest
  | @scanned p es q hne _ ih =>
    have hliteral : p.literal = (text.drop p.position).takeWhile isLiteralChar := by
      rw [← hp]
      rfl
    have hrest := (Place.LeadsTo.skipLiteral p).rest_eq_drop hp
    rw [List.map_cons, hliteral, replay?_cons _ (Notice.next?_scanned (hliteral ▸ hne)), ← hliteral]
    exact ih hrest

/-! ### Where the replay ends -/

/-- Where reading is when the fault has been found: behind a bad literal, and otherwise at the
position of the fault. -/
def Fault.stop : Fault → Nat
  | .badLiteral literal n _ => n + literal.length
  | fault => fault.position

theorem Fault.StopsAt.stop_eq {p q : Place} {fault : Fault} (h : fault.StopsAt p q) :
    fault.stop = q.position := by
  cases fault with
  | badLiteral literal n defect =>
    obtain ⟨s, -, rfl, rfl, -, -, rfl⟩ := h
    rw [stop, ← String.length_toList, String.toList_ofList]
    rfl
  | unexpectedCharacter _ _ | unexpectedEnd _ => exact h.1
  | expectedClosing _ _ | expectedNumber _ _ => exact h.1

/-- How much of the text has been read when an evaluation has come to the result. -/
def readUpTo (text : List Char) : Except Fault Binary64 → Nat
  | .ok _ => text.length
  | .error fault => fault.stop

/-- The rule for expressions stops where the result of the evaluation says. -/
theorem readUpTo_ended (text : List Char) :
    let o := Rule.expression.run (.start text)
    o.place.position = readUpTo text o.ended.result := by
  intro o
  have hrun := Rule.expression.yields_run (.start text)
  have hleads := Rule.expression.leadsTo_run (.start text)
  cases hresult : o.result with
  | error fault =>
    rw [Outcome.ended_of_error hresult]
    have hstop : fault.StopsAt (.start text) o.place := (hrun.isStopped hresult).task
    exact hstop.stop_eq.symm
  | ok value =>
    cases hpeek : o.place.peek? with
    | none =>
      have hend : o.ended.result = .ok value :=
        Outcome.ended_eq_ok_iff.2 ⟨hresult, Place.rest_eq_nil hpeek⟩
      have hsum : o.place.position + o.place.rest.length = 0 + text.length :=
        hleads.position_add_length
      rw [Place.rest_eq_nil hpeek, List.length_nil] at hsum
      rw [hend, readUpTo]
      omega
    | some c =>
      have hend : o.ended.result = .error (.unexpectedCharacter c o.place.position) := by
        simp only [Outcome.ended, hresult, hpeek]
        rfl
      rw [hend]
      rfl

/-- **The trace replays the evaluation**: of a text that is not blank the start is reported, what
can be replayed on the text up to where reading stopped, and the end with the result. -/
theorem trace_replays_evaluation {s : String} (h : s.toList.all isBlank = false) :
    ∃ notices, (Reading.ofString s).evaluate.trace.events.map Event.notice =
        ⟨"evaluating", [("input", s)]⟩ :: (notices ++ [Notice.ofResult (evaluate s)]) ∧
      replay? s.toList 0 notices = some (readUpTo s.toList (evaluate s)) := by
  have hwalk := (Rule.expression.yields_run (.start s.toList)).walks
  refine ⟨(Rule.expression.run (.start s.toList)).trace.events.map Event.notice, ?_, ?_⟩
  · rw [events_evaluate h, List.map_cons, List.map_append]
    cases evaluate s <;> rfl
  · rw [evaluate_of_not_blank h, ← readUpTo_ended]
    exact hwalk.replay rfl

theorem trace_replays_evaluation_bad_literal :
    " 2*(3+1.2.3".toList.all isBlank = false ∧
      ∃ notices, (Reading.ofString " 2*(3+1.2.3").evaluate.trace.events.map Event.notice =
          ⟨"evaluating", [("input", " 2*(3+1.2.3")]⟩ :: (notices ++ [⟨"evaluation failed",
            [("error", "Invalid number '1.2.3' at position 6: invalid float literal")]⟩]) ∧
        replay? " 2*(3+1.2.3".toList 0 notices = some 11 :=
  ⟨by decide, trace_replays_evaluation (s := " 2*(3+1.2.3") (by decide)⟩

end SumProduct
