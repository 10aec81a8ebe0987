import SumProduct.Inspect

/-!
# Sessions

A session works on one reading step by step: it looks, moves on, applies rules, and can
put readings aside on a stack and come back to them. Every step gives an answer and the
session after it. A rule leaves the reading where it stopped, also after a fault; an
evaluation works on a copy and leaves it alone.
-/

namespace SumProduct

/-- What can be asked of a session. -/
inductive Step
  /-- The next character. -/
  | peek
  /-- How far reading has come. -/
  | position
  /-- Move past the next character. -/
  | advance
  /-- Move past the next blanks. -/
  | skipBlanks
  /-- Read by a rule. -/
  | run (rule : Rule)
  /-- Evaluate what is left, without moving. -/
  | evaluate
  /-- Put a copy of the reading aside. -/
  | save
  /-- Come back to the copy put aside last. -/
  | restore
  /-- Show the reading. -/
  | inspect
  deriving DecidableEq

/-- What a step answers. -/
inductive Answer
  /-- Nothing to say. -/
  | done
  /-- A character, if there is one. -/
  | character (found : Option Char)
  /-- A position or a count. -/
  | number (n : Nat)
  /-- A value or a fault. -/
  | result (result : Except Fault Binary64)
  /-- Whether the step had something to do. -/
  | truth (holds : Bool)
  /-- A text. -/
  | text (text : String)

/-- A reading, and the readings put aside, the last one first. -/
structure Session where
  /-- The reading worked on. -/
  current : Reading
  /-- The readings put aside. -/
  saved : List Reading

namespace Session

/-- A session on a text of which nothing has been read. -/
def ofString (s : String) : Session := ⟨.ofString s, []⟩

/-- The answer to a step, and the session after it. -/
def step (s : Session) : Step → Answer × Session
  | .peek => (.character s.current.peek?, s)
  | .position => (.number s.current.position, s)
  | .advance => (.done, { s with current := s.current.advance })
  | .skipBlanks => (.done, { s with current := s.current.skipBlanks })
  | .run rule =>
    let o := s.current.run rule
    (.result o.result, { s with current := s.current.moveTo o.place })
  | .evaluate => (.result s.current.evaluate.result, s)
  | .save => (.number (s.saved.length + 1), { s with saved := s.current :: s.saved })
  | .restore =>
    match s.saved with
    | [] => (.truth false, s)
    | r :: saved => (.truth true, ⟨r, saved⟩)
  | .inspect => (.text (Inspect.reading s.current), s)

/-- The answers to steps one after the other, each with the session after it. -/
def steps (s : Session) : List Step → List (Answer × Session)
  | [] => []
  | step :: later =>
    let next := s.step step
    next :: next.2.steps later

end Session

end SumProduct
