/-!
# The surroundings of the program

What a request is answered with depends on the files at hand and on the log filter of the
environment.  A `Host` describes both, so that answering a request is a function like any other.

* `FileProblem` — why a file cannot be used, and its wording.
* `Host` — the surroundings.
-/

namespace Markbook

/-- Why a file cannot be read or written. -/
inductive FileProblem where
  | missing
  | denied
  | notDirectory
  | isDirectory
  | noSpace
  | nameTooLong
  | notText
  | other (text : String)
  deriving DecidableEq, Repr

namespace FileProblem

/-- The number and the wording that the system gives to a problem. -/
def fromSystem (number : Nat) (text : String) : String :=
  text ++ " (os error " ++ toString number ++ ")"

/-- The wording of a problem. -/
def message : FileProblem → String
  | missing => fromSystem 2 "No such file or directory"
  | denied => fromSystem 13 "Permission denied"
  | notDirectory => fromSystem 20 "Not a directory"
  | isDirectory => fromSystem 21 "Is a directory"
  | noSpace => fromSystem 28 "No space left on device"
  | nameTooLong => fromSystem 36 "File name too long"
  | notText => "stream did not contain valid UTF-8"
  | other text => text

end FileProblem

/-- The surroundings of the program. -/
structure Host where
  /-- The log filter of the environment, which goes before that of the command line. -/
  logFilter : Option String
  /-- The text of a file, or why it cannot be read. -/
  read : String → Except FileProblem String
  /-- Why a file cannot be written, if it cannot. -/
  refusal : String → Option FileProblem

end Markbook
