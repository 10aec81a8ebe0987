import SumProduct.Fault

/-!
# Events and traces

What an evaluation reports of itself while it runs: when it starts and how it ends, each
entry into a rule, each character passed and each literal read. Events are kept as what
they are; level, words and particulars are read off them where they are shown.

A trace is what happened in order. Traces are joined all the time, and deeply nested
parentheses would make that costly for lists, so a trace is a tree of joins; its events
are the leaves from left to right.
-/

namespace SumProduct

/-! ### Events -/

/-- Something that happens in an evaluation. -/
inductive Event
  /-- The evaluation of a text starts. -/
  | evaluating (text : String)
  /-- The text has nothing but blanks. -/
  | rejectedBlank (fault : Fault)
  /-- A rule is entered. -/
  | entered (rule : Rule) (position : Nat)
  /-- A character was passed; the position is the new one. -/
  | advanced (position : Nat)
  /-- A literal was read. -/
  | scanned (literal : String) (start : Nat)
  /-- The evaluation ends with a value. -/
  | finished (value : Binary64)
  /-- The evaluation ends with a fault. -/
  | failed (fault : Fault)
  deriving DecidableEq

/-- How much an entry of the log matters, the more the higher. -/
inductive Level
  /-- Single steps. -/
  | trace
  /-- Starts and ends of evaluations. -/
  | debug
  /-- What a user may want to know. -/
  | info
  deriving DecidableEq

/-- The name of a level. -/
def Level.name : Level → String
  | .trace => "TRACE"
  | .debug => "DEBUG"
  | .info => "INFO"

namespace Event

/-- How much the event matters. -/
def level : Event → Level
  | .entered _ _ | .advanced _ | .scanned _ _ => .trace
  | .evaluating _ | .rejectedBlank _ | .finished _ | .failed _ => .debug

/-- The event in words. -/
def message : Event → String
  | .evaluating _ => "evaluating"
  | .rejectedBlank _ => "rejected blank input"
  | .entered rule _ => rule.name
  | .advanced _ => "advance"
  | .scanned _ _ => "scanned literal"
  | .finished _ => "evaluation finished"
  | .failed _ => "evaluation failed"

/-- The particulars of the event, by name. -/
def fields : Event → List (String × String)
  | .evaluating text => [("input", text)]
  | .rejectedBlank fault => [("error", fault.message)]
  | .entered _ position => [("cursor", Nat.repr position)]
  | .advanced position => [("cursor", Nat.repr position)]
  | .scanned literal start => [("literal", literal), ("start", Nat.repr start)]
  | .finished value => [("value", value.text)]
  | .failed fault => [("error", fault.message)]

end Event

/-! ### Traces -/

/-- Events in order. -/
inductive Trace
  /-- No event. -/
  | empty
  /-- One event. -/
  | single (event : Event)
  /-- The events of one trace, then those of another. -/
  | join (first second : Trace)

namespace Trace

instance : Append Trace := ⟨join⟩

/-- The events of a trace, put in front of others. -/
def onto : Trace → List Event → List Event
  | .empty, events => events
  | .single event, events => event :: events
  | .join first second, events => first.onto (second.onto events)

/-- The events of a trace. -/
def events (t : Trace) : List Event := t.onto []

/-- The trace of some events. -/
def ofList (events : List Event) : Trace := events.foldl (fun t e => t ++ .single e) .empty

/-- The trace of passing `n` characters from a position on. -/
def passing (position n : Nat) : Trace := ofList ((List.range' (position + 1) n).map .advanced)

/-! ### The events of a trace -/

theorem onto_eq (t : Trace) (events : List Event) : t.onto events = t.events ++ events := by
  induction t generalizing events with
  | empty => rfl
  | single e => rfl
  | join a b iha ihb =>
    simp only [onto, Trace.events]
    rw [iha, ihb events, iha (b.onto []), ihb []]
    simp

@[simp] theorem events_empty : Trace.empty.events = [] := rfl

@[simp] theorem events_single (e : Event) : (Trace.single e).events = [e] := rfl

@[simp] theorem events_append (a b : Trace) : (a ++ b).events = a.events ++ b.events := by
  show a.onto (b.onto []) = _
  rw [onto_eq a]
  rfl

@[simp] theorem events_ofList (events : List Event) : (ofList events).events = events := by
  have key (t : Trace) :
      (events.foldl (fun t e => t ++ Trace.single e) t).events = t.events ++ events := by
    induction events generalizing t with
    | nil => simp
    | cons e events ih => simp [ih]
  simpa [ofList] using key .empty

@[simp] theorem events_passing (position n : Nat) :
    (passing position n).events = (List.range' (position + 1) n).map .advanced :=
  events_ofList _

end Trace

end SumProduct
