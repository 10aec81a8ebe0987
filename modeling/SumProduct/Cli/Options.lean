/-!
# Options

What the arguments of the command line ask for. Arguments are taken in order, and the
first one that settles the matter does: a request for help or for the version, or a
misuse. Short flags may be joined in one argument. The file option takes the rest of its
argument as the path, with or without an equals sign in between, and otherwise the next
argument, which then must not look like an option. Two dashes end the options, and a
lone dash is an expression like any other text.
-/

namespace SumProduct.Cli

/-- What to evaluate, and how to report it. -/
structure Request where
  /-- The expressions given as arguments. -/
  expressions : List String
  /-- The file to read more expressions from. -/
  file : Option String
  /-- Whether to remove blanks from the expressions. -/
  strip : Bool
  /-- How many times more detail was asked for, as far as that is counted. -/
  verbosity : Nat
  deriving DecidableEq

/-- A request for nothing. -/
def Request.empty : Request := ⟨[], none, false, 0⟩

/-- How far it is counted how many times more detail was asked for: as one byte can. -/
def highestVerbosity : Nat := 255

/-- What the command line asks for. -/
inductive Command
  /-- To evaluate expressions. -/
  | run (request : Request)
  /-- To show how the program is used. -/
  | help
  /-- To show which version it is. -/
  | version
  /-- Nothing that the program knows. -/
  | misuse
  deriving DecidableEq

/-- Where the arguments have led to. -/
inductive Progress
  /-- More arguments can follow; whether the next one must be the path of a file. -/
  | going (request : Request) (awaitsPath : Bool)
  /-- The rest does not matter. -/
  | settled (command : Command)
  deriving DecidableEq

namespace Request

/-- Blanks are to be removed; asking twice is a misuse. -/
def withStrip (r : Request) : Option Request :=
  if r.strip then none else some { r with strip := true }

/-- More detail is wanted. The count stays at its highest value and does not start again. -/
def moreVerbose (r : Request) : Request :=
  { r with verbosity := min (r.verbosity + 1) highestVerbosity }

/-- A file is to be read, with the path still to come; asking twice is a misuse. -/
def awaitFile (r : Request) : Progress :=
  if r.file.isSome then .settled .misuse else .going r true

/-- A file is to be read; asking twice is a misuse. -/
def withFile (r : Request) (path : List Char) : Progress :=
  if r.file.isSome then .settled .misuse
  else .going { r with file := some (String.ofList path) } false

/-- One more expression. -/
def withExpression (r : Request) (expression : List Char) : Request :=
  { r with expressions := r.expressions ++ [String.ofList expression] }

/-- The flags joined in one argument after its dash. -/
def readFlags (r : Request) : List Char → Progress
  | [] => .going r false
  | c :: rest =>
    if c = 's' then
      match r.withStrip with
      | none => .settled .misuse
      | some r => r.readFlags rest
    else if c = 'v' then r.moreVerbose.readFlags rest
    else if c = 'h' then .settled .help
    else if c = 'V' then .settled .version
    else if c = 'f' then
      match rest with
      | [] => r.awaitFile
      | '=' :: path => r.withFile path
      | path => r.withFile path
    else .settled .misuse

/-- An option with a long name, and what stands after an equals sign, if there is one. -/
def readLong (r : Request) (name : String) (attached : Option (List Char)) : Progress :=
  match name, attached with
  | "file", none => r.awaitFile
  | "file", some path => r.withFile path
  | "strip-whitespace", none =>
    match r.withStrip with
    | none => .settled .misuse
    | some r => .going r false
  | "verbose", none => .going r.moreVerbose false
  | "help", none => .settled .help
  | "version", none => .settled .version
  | _, _ => .settled .misuse

/-- One argument before the end of the options. -/
def readArgument (r : Request) : List Char → Progress
  | '-' :: '-' :: long =>
    let name := String.ofList (long.takeWhile (· != '='))
    match long.dropWhile (· != '=') with
    | [] => r.readLong name none
    | _ :: value => r.readLong name (some value)
  | '-' :: c :: flags => r.readFlags (c :: flags)
  | expression => .going (r.withExpression expression) false

end Request

/-- An argument that cannot be the path of a file in its own right: a dash with something
after it. -/
def looksLikeOption : List Char → Bool
  | '-' :: _ :: _ => true
  | _ => false

/-- The arguments after those that led to a request, the first of which may have to be
the path of a file. -/
def readArguments (r : Request) (awaitsPath : Bool) : List String → Command
  | [] => if awaitsPath then .misuse else .run r
  | arg :: args =>
    if awaitsPath then
      if looksLikeOption arg.toList then .misuse
      else readArguments { r with file := some arg } false args
    else if arg = "--" then .run { r with expressions := r.expressions ++ args }
    else
      match r.readArgument arg.toList with
      | .settled command => command
      | .going r awaitsPath => readArguments r awaitsPath args

/-- What the arguments of a command line ask for. -/
def Command.ofArguments (args : List String) : Command := readArguments .empty false args

/-! ### Which argument settles the matter -/

/-- Help asked for before a misuse is given, and after it is not. -/
example :
    Command.ofArguments ["-h", "--no"] = .help ∧ Command.ofArguments ["--no", "-h"] = .misuse :=
  ⟨by decide, by decide⟩

/-- A path that is still to come is not a flag. -/
example :
    Command.ofArguments ["-f", "-h"] = .misuse ∧
      Command.ofArguments ["-f", "-"] = .run { Request.empty with file := some "-" } :=
  ⟨by decide, by decide⟩

/-!
### Usage

What the program says of itself when asked for help or for its version.
-/

/-- The name of the program and its version. -/
def versionText : String := "exprfuse 0.1.0\n"

/-- How the program is used. -/
def helpText : String :=
  "A fused recursive-descent evaluator for sum/product arithmetic expressions.\n\n" ++
  "Usage: exprfuse [OPTIONS] [EXPRESSIONS]...\n\n" ++
  "Arguments:\n" ++
  "  [EXPRESSIONS]...  Expressions to evaluate. With none given and no file, " ++
  "a built-in list of samples is evaluated\n\n" ++
  "Options:\n" ++
  "  -f, --file <FILE>       Reads expressions from a file, one per line, " ++
  "in addition to any given on the command line\n" ++
  "  -s, --strip-whitespace  Removes all whitespace from each expression before evaluating it\n" ++
  "  -v, --verbose...        Shows more in logs, may be provided multiple times\n" ++
  "  -h, --help              Print help\n" ++
  "  -V, --version           Print version\n"

end SumProduct.Cli
