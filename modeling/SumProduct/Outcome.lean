import SumProduct.Place
import SumProduct.Trace

/-!
# Outcomes

What reading a piece of a text comes to: a value or a fault, the place where reading
stopped, and the trace of it. A fault does not undo anything, so its outcome too has
the place that was reached.
-/

namespace SumProduct

/-- What reading a piece of a text comes to. -/
structure Outcome where
  /-- The value read, or the fault that stopped the reading. -/
  result : Except Fault Binary64
  /-- Where the reading stopped. -/
  place : Place
  /-- What happened on the way. -/
  trace : Trace

namespace Outcome

/-- The same outcome with events before its own. -/
def after (o : Outcome) (t : Trace) : Outcome := { o with trace := t ++ o.trace }

/-- The same outcome with another fault or value. -/
def withResult (o : Outcome) (result : Except Fault Binary64) : Outcome := { o with result }

/-- Move past the next character. -/
def advance (o : Outcome) : Outcome :=
  { o with
    place := o.place.advance
    trace := o.trace ++ .single (.advanced o.place.advance.position) }

/-- Move past the next blanks. -/
def skipBlanks (o : Outcome) : Outcome :=
  { o with
    place := o.place.skipBlanks
    trace := o.trace ++ .passing o.place.position o.place.blanks }

/-- The outcome of reading the next literal. -/
def ofLiteral (p : Place) : Outcome :=
  let literal := p.rest.takeWhile isLiteralChar
  if literal = [] then
    ⟨.error (.expectedNumber p.peek? p.position), p, .empty⟩
  else
    let text := String.ofList literal
    ⟨(Literal.value literal).mapError (.badLiteral text p.position),
      ⟨p.position + literal.length, p.rest.dropWhile isLiteralChar⟩,
      .single (.scanned text p.position)⟩

/-! ### What each step does to the parts -/

@[simp] theorem result_after (o : Outcome) (t : Trace) : (o.after t).result = o.result := rfl

@[simp] theorem place_after (o : Outcome) (t : Trace) : (o.after t).place = o.place := rfl

@[simp] theorem events_after (o : Outcome) (t : Trace) :
    (o.after t).trace.events = t.events ++ o.trace.events := by simp [after]

@[simp] theorem result_advance (o : Outcome) : o.advance.result = o.result := rfl

@[simp] theorem place_advance (o : Outcome) : o.advance.place = o.place.advance := rfl

@[simp] theorem result_skipBlanks (o : Outcome) : o.skipBlanks.result = o.result := rfl

@[simp] theorem place_skipBlanks (o : Outcome) : o.skipBlanks.place = o.place.skipBlanks := rfl

/-- A literal takes away from the text what it is made of. -/
theorem length_place_ofLiteral_le (p : Place) :
    (ofLiteral p).place.rest.length ≤ p.rest.length := by
  unfold ofLiteral
  dsimp only
  split
  · exact Nat.le_refl _
  · exact List.Sublist.length_le (List.dropWhile_sublist _)

end Outcome

end SumProduct
