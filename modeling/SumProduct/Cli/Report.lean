import SumProduct.Cli.Directory
import SumProduct.Cli.Options
import SumProduct.Reading

/-!
# Reports

What the program answers to a command: the exit code, what it prints, and what it writes
to the log. Expressions are evaluated one by one, first those of the arguments, then the
lines of the file that are not blank, and none has an effect on another. Each gives one
line, with its value or with what is wrong. Where there is no expression at all, samples
are evaluated instead, and each is shown before its result.

A file that cannot be read is a failure of its own, and then nothing is evaluated.
-/

namespace SumProduct

/-!
### The log

Entries of the log have a level, words and named particulars, like the events that most
of them come from. How many times more detail was asked for decides which levels are
shown: none at first, then one level more each time, from those that matter most.
-/

/-- How many times more detail has to be asked for before entries of a level are shown. -/
def Level.leastVerbosity : Level → Nat
  | .info => 1
  | .debug => 2
  | .trace => 3

namespace Cli

/-- An entry of the log. -/
structure Entry where
  /-- How much it matters. -/
  level : Level
  /-- What happened. -/
  message : String
  /-- The particulars, by name. -/
  fields : List (String × String)
  deriving DecidableEq

namespace Entry

/-- The entry for an event of an evaluation. -/
def ofEvent (e : Event) : Entry := ⟨e.level, e.message, e.fields⟩

/-- The entry is shown if more detail was asked for so many times. -/
def isShown (verbosity : Nat) (e : Entry) : Bool := e.level.leastVerbosity ≤ verbosity

/-- The entry as it is written. -/
def text (e : Entry) : String :=
  e.level.name ++ " " ++ e.message ++
    String.join (e.fields.map fun f => " " ++ f.1 ++ "=" ++ f.2)

/-- Whoever asks for more detail sees all that others see. -/
theorem isShown_mono {m n : Nat} (h : m ≤ n) {e : Entry} (hm : e.isShown m = true) :
    e.isShown n = true := by
  simp only [isShown, decide_eq_true_eq] at hm ⊢
  omega

end Entry

/-! ### What the program answers -/

/-- What the program answers. -/
structure Report where
  /-- The exit code. -/
  code : Nat
  /-- What is printed. -/
  output : String
  /-- The entries of the log that are shown. -/
  log : List Entry
  /-- What is wrong apart from the expressions. -/
  complaint : Option String

/-- The answer to a misuse: its exit code only. -/
def Report.misuse : Report := ⟨2, "", [], none⟩

/-- The answer to a question about the program. -/
def Report.information (text : String) : Report := ⟨0, text, [], none⟩

/-- The answer if a file cannot be read. -/
def Report.unreadable (path : String) (failure : ReadFailure) : Report :=
  ⟨1, "", [], some ("Failed to read the input file '" ++ path ++ "': " ++ failure.message)⟩

/-- What is written besides the output, each part of it on a line of its own. -/
def Report.errorOutput (r : Report) : String :=
  String.join ((r.log.map Entry.text ++ r.complaint.toList).map (· ++ "\n"))

/-! ### Trials -/

/-- An expression, as it was given, and what its evaluation came to. -/
structure Trial where
  /-- The expression as it was given. -/
  expression : String
  /-- What its evaluation came to. -/
  outcome : Outcome

namespace Trial

/-- An expression tried, possibly without its blanks. -/
def of (strip : Bool) (expression : String) : Trial :=
  let source := if strip then withoutBlanks expression else expression
  ⟨expression, (Reading.ofString source).evaluate⟩

/-- The evaluation came to a fault. -/
def isFailure (t : Trial) : Bool :=
  match t.outcome.result with
  | .ok _ => false
  | .error _ => true

/-- The line for the result. -/
def line (t : Trial) : String :=
  match t.outcome.result with
  | .ok value => "Result: " ++ value.text ++ "\n"
  | .error fault => "Error: " ++ fault.message ++ "\n"

/-- The line that announces a sample, after an empty one. -/
def announcement (t : Trial) : String := "\nTest Case: " ++ t.expression ++ "\n"

/-- The entries of the log, all levels: the events of the evaluation and, after a fault,
which expression it was. -/
def log (t : Trial) : List Entry :=
  t.outcome.trace.events.map Entry.ofEvent ++
    if t.isFailure then [⟨.info, "evaluation failed", [("expression", t.expression)]⟩] else []

end Trial

/-! ### Runs -/

/-- The expressions to evaluate if none is given. -/
def samples : List String :=
  ["2 + 3 * (4 + 5)", "2 + 3 * 4", "(2 + 3) * 4", "2 * (3 + 4) * (5 + 6)", "1.5 + 2.5 * 3"]

/-- The expressions in a file: its lines, but for those of blanks only. -/
def expressionsIn (contents : String) : List String :=
  ((linesOf contents.toList).filter fun line => !line.all isBlank).map String.ofList

/-- The entry of the log if no expression is given. -/
def samplesEntry : Entry := ⟨.info, "no expressions given, evaluating samples", []⟩

namespace Request

/-- The report on trials, with entries of the log before theirs. -/
def reportOn (r : Request) (announce : Bool) (entries : List Entry) (trials : List Trial) :
    Report :=
  { code := if trials.any Trial.isFailure then 1 else 0
    output := String.join (trials.map fun t =>
      if announce then t.announcement ++ t.line else t.line)
    log := (entries ++ trials.flatMap Trial.log).filter (Entry.isShown r.verbosity)
    complaint := none }

/-- The report on expressions, or on the samples if there are none. -/
def reportOnAll (r : Request) (expressions : List String) : Report :=
  if expressions.isEmpty then r.reportOn true [samplesEntry] (samples.map (Trial.of r.strip))
  else r.reportOn false [] (expressions.map (Trial.of r.strip))

/-- The report on a request, given what reading a file comes to. -/
def report (r : Request) (read : String → Except ReadFailure String) : Report :=
  match r.file with
  | none => r.reportOnAll r.expressions
  | some path =>
    match read path with
    | .error failure => .unreadable path failure
    | .ok contents => r.reportOnAll (r.expressions ++ expressionsIn contents)

end Request

/-- The report on a command, given what reading a file comes to. -/
def Command.report (command : Command) (read : String → Except ReadFailure String) : Report :=
  match command with
  | .run request => request.report read
  | .help => .information helpText
  | .version => .information versionText
  | .misuse => .misuse

end Cli

end SumProduct
