import SumProduct.Grammar.Basic
import SumProduct.Outcome

/-!
# A machine with a stack

Evaluation in one pass from left to right, without recursion. The machine has a mode: it
either waits for an operand or has just had one. What has been computed in the innermost
open parenthesis is a sum and a product; neither starts from zero or one, they are there
or not. An opening parenthesis puts both on a stack, and its end takes them back.

This is another way to say what expressions mean and which fault a text has; the rules of
`SumProduct.Descent` need no stack of their own, and the machine needs no rules.
-/

namespace SumProduct.StackMachine

/-- What has been computed before an operand: the sum of the terms, and the product of the
factors of the last term. -/
structure Frame where
  /-- The sum of the finished terms, if there are any. -/
  sum : Option Binary64
  /-- The product of the factors so far, if there are any. -/
  product : Option Binary64

/-- The frame of an expression of which nothing has been read. -/
def Frame.empty : Frame := ⟨none, none⟩

/-- The product with one more factor. -/
def Frame.times (f : Frame) (value : Binary64) : Binary64 :=
  match f.product with
  | none => value
  | some product => product * value

/-- The sum with one more term. -/
def total (sum : Option Binary64) (product : Binary64) : Binary64 :=
  match sum with
  | none => product
  | some sum => sum + product

/-- What the machine expects. -/
inductive Mode
  /-- An operand, to be multiplied into the frame. -/
  | operand (frame : Frame)
  /-- An operator, after a sum and a product that has at least one factor. -/
  | operator (sum : Option Binary64) (product : Binary64)

/-- The machine: what it expects, the frames of the parentheses that are open, the
innermost first, and where it is. -/
structure Machine where
  /-- What the machine expects. -/
  mode : Mode
  /-- The frames of the open parentheses. -/
  stack : List Frame
  /-- Where the machine is. -/
  place : Place

namespace Machine

/-- The machine before it has read anything. -/
def start (text : List Char) : Machine := ⟨.operand .empty, [], .start text⟩

/-- The next literal as an operand. -/
def readLiteral (m : Machine) (frame : Frame) : Except Fault Machine :=
  let literal := m.place.rest.takeWhile isLiteralChar
  if literal = [] then .error (.expectedNumber m.place.peek? m.place.position)
  else
    match Literal.value literal with
    | .error defect => .error (.badLiteral (String.ofList literal) m.place.position defect)
    | .ok value =>
      .ok ⟨.operator frame.sum (frame.times value), m.stack, m.place.skip literal.length⟩

/-- What the machine does at a character. -/
def step (m : Machine) (c : Char) : Except Fault Machine :=
  if isBlank c then .ok { m with place := m.place.advance }
  else
    match m.mode with
    | .operand frame =>
      if c = '(' then .ok ⟨.operand .empty, frame :: m.stack, m.place.advance⟩
      else m.readLiteral frame
    | .operator sum product =>
      if c = '*' then .ok ⟨.operand ⟨sum, some product⟩, m.stack, m.place.advance⟩
      else if c = '+' then
        .ok ⟨.operand ⟨some (total sum product), none⟩, m.stack, m.place.advance⟩
      else if c = ')' then
        match m.stack with
        | [] => .error (.unexpectedCharacter c m.place.position)
        | frame :: stack =>
          .ok ⟨.operator frame.sum (frame.times (total sum product)), stack, m.place.advance⟩
      else .error (.unexpectedCharacter c m.place.position)

/-- What the machine answers at the end of the text. -/
def finish (m : Machine) : Except Fault Binary64 :=
  match m.mode with
  | .operand _ => .error (.unexpectedEnd m.place.position)
  | .operator sum product =>
    if m.stack.isEmpty then .ok (total sum product)
    else .error (.expectedClosing none m.place.position)

/-- Step by step to the end of the text. Every step passes a character, so there cannot
be more steps than characters. -/
def run : List Char → Machine → Except Fault Binary64
  | [], m => m.finish
  | _ :: rounds, m =>
    match m.place.peek? with
    | none => m.finish
    | some c =>
      match m.step c with
      | .error fault => .error fault
      | .ok m => m.run rounds

end Machine

/-- The value of a text, or why it has none. -/
def evaluate (s : String) : Except Fault Binary64 :=
  let text := s.toList
  if text.all isBlank then .error (.expectedNumber none text.length)
  else (Machine.start text).run text

end SumProduct.StackMachine
