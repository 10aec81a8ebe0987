import SumProduct.Descent

/-!
# Readings

A text being read: the whole of it, and how far reading has come. A reading can be moved
on character by character, be handed to a rule of the grammar, or be evaluated, which
asks that one expression makes up the text to its end.

A text of blanks only is refused before any rule looks at it, and the fault names the
end of the text. This is asked of the whole text, however far the reading has come.
-/

namespace SumProduct

/-- A text, and how far it has been read. -/
structure Reading where
  /-- The characters of the whole text. -/
  text : List Char
  /-- How many of them have been read. -/
  position : Nat
  deriving DecidableEq

namespace Reading

/-- A text of which nothing has been read. -/
def ofString (s : String) : Reading := ⟨s.toList, 0⟩

/-- Where the reading has come to. -/
def place (r : Reading) : Place := ⟨r.position, r.text.drop r.position⟩

/-- The reading moved to a place. -/
def moveTo (r : Reading) (p : Place) : Reading := { r with position := p.position }

/-- The next character. -/
def peek? (r : Reading) : Option Char := r.place.peek?

/-- The reading after the next character. -/
def advance (r : Reading) : Reading := r.moveTo r.place.advance

/-- The reading after the next blanks. -/
def skipBlanks (r : Reading) : Reading := r.moveTo r.place.skipBlanks

/-- The outcome of a rule from here. -/
def run (r : Reading) (rule : Rule) : Outcome := rule.run r.place

/-- The outcome of the next literal; nothing if the position is beyond the text. -/
def scan? (r : Reading) : Option Outcome :=
  (Place.at? r.text r.position).map Outcome.ofLiteral

end Reading

/-- The outcome that also asks for the end of the text. -/
def Outcome.ended (o : Outcome) : Outcome :=
  match o.result, o.place.peek? with
  | .ok _, some c => o.withResult (.error (.unexpectedCharacter c o.place.position))
  | _, _ => o

/-- The last event of an evaluation. -/
def Event.ofResult : Except Fault Binary64 → Event
  | .ok value => .finished value
  | .error fault => .failed fault

namespace Reading

/-- The text has nothing but blanks. -/
def IsBlank (r : Reading) : Prop := r.text.all isBlank = true

instance (r : Reading) : Decidable r.IsBlank := inferInstanceAs (Decidable (_ = _))

/-- The first event of an evaluation. -/
def opening (r : Reading) : Trace := .single (.evaluating (String.ofList r.text))

/-- The outcome of an evaluation of blanks. -/
def refusal (r : Reading) : Outcome :=
  let fault := Fault.expectedNumber none r.text.length
  ⟨.error fault, r.place, r.opening ++ .single (.rejectedBlank fault)⟩

/-- The outcome of an evaluation by the outcome of reading an expression. -/
def conclusion (r : Reading) (o : Outcome) : Outcome :=
  { o.ended with
    trace := r.opening ++ o.trace ++ .single (Event.ofResult o.ended.result) }

/-- The evaluation of what is left of the text. -/
def evaluate (r : Reading) : Outcome :=
  if r.IsBlank then r.refusal else r.conclusion (r.run .expression)

/-- The evaluation if expressions may be nested down to a depth, the outermost one
counted; nothing if that is not deep enough. -/
def evaluateWithin (depth : Nat) (r : Reading) : Option Outcome :=
  if r.IsBlank then some r.refusal
  else (Rule.expression.within depth r.place).map r.conclusion

end Reading

/-- The value of a text, or why it has none. -/
def evaluate (s : String) : Except Fault Binary64 := (Reading.ofString s).evaluate.result

/-- The equality of results: values by the equality of numbers, in which not-a-number
differs from itself, and faults by all they say. -/
def sameResult : Except Fault Binary64 → Except Fault Binary64 → Bool
  | .ok x, .ok y => x.equals y
  | .error e, .error f => e == f
  | _, _ => false

end SumProduct
