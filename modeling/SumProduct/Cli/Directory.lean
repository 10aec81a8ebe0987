/-!
# Directories

Where the program finds its files: a directory with some files in it and nothing else. A
path is walked step by step, and each step says where it leads or why it does not. Of what
lies outside the directory only this much is known: the directories above it are
directories, and every system has a root with some directories of its own in it and an
empty device.
-/

namespace SumProduct.Cli

/-- Why a file could not be read. -/
inductive ReadFailure
  /-- There is no such file. -/
  | missing
  /-- The path goes on after a file. -/
  | notDirectory
  /-- The path is that of a directory. -/
  | directory
  /-- The path, or a name in it, is too long. -/
  | tooLong
  /-- The bytes are not a text in UTF-8. -/
  | notText
  /-- Another reason, in words. -/
  | other (reason : String)
  deriving DecidableEq

/-- The reason in words. -/
def ReadFailure.message : ReadFailure → String
  | .missing => "No such file or directory (os error 2)"
  | .notDirectory => "Not a directory (os error 20)"
  | .directory => "Is a directory (os error 21)"
  | .tooLong => "File name too long (os error 36)"
  | .notText => "stream did not contain valid UTF-8"
  | .other reason => reason

/-- The text that bytes stand for. -/
def decode (bytes : ByteArray) : Except ReadFailure String :=
  match String.fromUTF8? bytes with
  | some text => .ok text
  | none => .error .notText

/-- A directory with files. -/
structure Directory where
  /-- The files by name. -/
  files : List (String × ByteArray)

/-- Where the steps of a path have led to. -/
inductive Spot
  /-- The directory itself. -/
  | inside
  /-- A directory above it. -/
  | above
  /-- A directory that is reached from the root by some steps, the last one first. -/
  | fromRoot (steps : List String)
  /-- A file. -/
  | file (bytes : ByteArray)

namespace Directory

/-- The directories in the root that every system has. -/
def commonDirectories : List String := ["bin", "dev", "etc", "tmp", "usr", "var"]

/-- The most bytes that a name may have. -/
def longestName : Nat := 255

/-- The most bytes that a path may have. -/
def longestPath : Nat := 4095

/-- Where a step leads to. -/
def step (d : Directory) (spot : Spot) (name : String) : Except ReadFailure Spot :=
  match spot with
  | .file _ => .error .notDirectory
  | spot =>
    if name = "" ∨ name = "." then .ok spot
    else if longestName < name.utf8ByteSize then .error .tooLong
    else
      match spot, name with
      | .inside, ".." => .ok .above
      | .above, ".." => .ok .above
      | .fromRoot steps, ".." => .ok (.fromRoot steps.tail)
      | .inside, name =>
        match d.files.lookup name with
        | some bytes => .ok (.file bytes)
        | none => .error .missing
      | .fromRoot [], name =>
        if name ∈ commonDirectories then .ok (.fromRoot [name]) else .error .missing
      | .fromRoot ["dev"], "null" => .ok (.file .empty)
      | _, _ => .error .missing

/-- The text of the file at a path. -/
def read (d : Directory) (path : String) : Except ReadFailure String :=
  if path = "" then .error .missing
  else if longestPath < path.utf8ByteSize then .error .tooLong
  else
    let steps := path.splitOn "/"
    let start := if steps.head? = some "" then Spot.fromRoot [] else .inside
    match steps.foldlM d.step start with
    | .error failure => .error failure
    | .ok (.file bytes) => decode bytes
    | .ok _ => .error .directory

end Directory

end SumProduct.Cli
