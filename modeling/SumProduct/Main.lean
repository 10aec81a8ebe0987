import SumProduct.Cli.Report

/-!
# The program

The command line: reads the file that the arguments name, if any, and carries out the
report on the command. All decisions are in `SumProduct.Cli.Report`.
-/

namespace SumProduct.Cli

/-- The text of a file on disk. -/
def readFile (path : String) : IO (Except ReadFailure String) := do
  try
    return decode (← IO.FS.readBinFile path)
  catch
    | .noFileOrDirectory .. => return .error .missing
    | .inappropriateType .. => return .error .directory
    | e => return .error (.other (toString e))

/-- The path of the file that a command asks to read. -/
def Command.path? : Command → Option String
  | .run request => request.file
  | _ => none

end SumProduct.Cli

open SumProduct.Cli

/-- Carry out the command of the arguments. -/
def main (args : List String) : IO UInt32 := do
  let command := Command.ofArguments args
  let contents ← match command.path? with
    | none => pure (.error .missing)
    | some path => readFile path
  let report := command.report fun _ => contents
  IO.eprint report.errorOutput
  IO.print report.output
  return report.code.toUInt32
