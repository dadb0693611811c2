import Markbook.Command.Run

/-!
# The program

Everything the program says is decided by `Markbook.runWords`.  Here the files are read and written.
-/

namespace Markbook

/-- The problem that has a number of the system. -/
def problemOfNumber (number : UInt32) (text : String) : FileProblem :=
  match number.toNat with
  | 2 => .missing
  | 13 => .denied
  | 20 => .notDirectory
  | 21 => .isDirectory
  | 28 => .noSpace
  | 36 => .nameTooLong
  | n => .other (FileProblem.fromSystem n text)

/-- Why the system refused something. -/
def problemOf : IO.Error → FileProblem
  | .noFileOrDirectory _ number text => problemOfNumber number text
  | .noSuchThing _ number text => problemOfNumber number text
  | .permissionDenied _ number text => problemOfNumber number text
  | .inappropriateType _ number text => problemOfNumber number text
  | .resourceExhausted _ number text => problemOfNumber number text
  | .invalidArgument _ number text => problemOfNumber number text
  | .otherError number text => problemOfNumber number text
  | .userError _ => .notText
  | e => .other (toString e)

/-- The file that a command line asks to be read. -/
def inputOf (words : List String) : Option String :=
  match Invocation.ofWords words with
  | .ok ⟨_, .report input _ _ _ _⟩ => some input
  | _ => none

/-- Reads the file that is asked for. -/
def readInput : Option String → IO (Except FileProblem String)
  | none => return .ok ""
  | some path => do
    try
      return .ok (← IO.FS.readFile path)
    catch e => return .error (problemOf e)

/-- Writes the file of an outcome, and tells why it could not. -/
def writeFile : Option (String × String) → IO (Option FileProblem)
  | none => return none
  | some (path, text) => do
    try
      IO.FS.writeFile path text
      return none
    catch e => return some (problemOf e)

end Markbook

open Markbook in
/-- Answers the command line. -/
def main (words : List String) : IO UInt32 := do
  let logFilter ← IO.getEnv "RUST_LOG"
  let content ← readInput (inputOf words)
  let host : Host := ⟨logFilter, fun _ => content, fun _ => none⟩
  let outcome := runWords host words
  let refusal ← writeFile outcome.file
  let outcome := if refusal.isSome then runWords { host with refusal := fun _ => refusal } words
    else outcome
  IO.print outcome.stdout
  IO.eprint outcome.stderr
  return outcome.exit.toUInt32
