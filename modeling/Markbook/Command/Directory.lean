import Markbook.Command.Host

/-!
# A directory of files

A directory is given by its files, each under the steps of its path.  A path is followed step by
step, as the system does it: every step but the last has to lead into a directory, and a path that
ends in a slash asks for a directory.

* `Directory.find` — what a path leads to.
* `Directory.read`, `Directory.refusal` — reading a file, and why one cannot be written.
* `Directory.write` — the directory with a file written.
* `Directory.host` — the surroundings of a program that is run in the directory.
-/

namespace Markbook

/-- A directory, given by the steps and the text of each file in it. -/
structure Directory where
  files : List (List String × String)

/-- What a path leads to.  An entry that is not there may be created. -/
inductive Target where
  | directory
  | file (steps : List String)
  | absent (steps : List String)
  deriving DecidableEq, Repr

namespace Directory

/-- The text of the file with these steps. -/
def text? (d : Directory) (steps : List String) : Option String :=
  (d.files.find? (·.1 == steps)).map (·.2)

/-- Do these steps lead to a directory? -/
def isDirectory (d : Directory) (steps : List String) : Bool :=
  steps.isEmpty || d.files.any fun file => steps.isPrefixOf file.1 && steps != file.1

/-- The most bytes that one step may have. -/
def maxStepBytes : Nat :=
  255

/-- The most bytes that a path may have. -/
def maxPathBytes : Nat :=
  4095

/-- What the entry with these steps is. -/
def entry (d : Directory) (steps : List String) : Except FileProblem Target :=
  if d.isDirectory steps then .ok .directory
  else if (d.text? steps).isSome then .ok (.file steps)
  else if (steps.getLast?.any fun step => maxStepBytes < step.utf8ByteSize) then
    .error .nameTooLong
  else .ok (.absent steps)

/-- Directories above this one, of which nothing is known but that they are there. -/
def systemDirectories : List String :=
  ["dev", "etc", "home", "tmp", "usr", "var"]

/-- Follows steps from the directory `at'`, which is itself given by its steps.  Above the top there
are only the directories of the system, and no file is there yet. -/
def follow (d : Directory) : Option (List String) → List String → Except FileProblem Target
  | _, [] => .ok .directory
  | at', "." :: rest => d.follow at' rest
  | some at', ".." :: rest => d.follow (if at'.isEmpty then none else some at'.dropLast) rest
  | none, ".." :: rest => d.follow none rest
  | none, step :: rest =>
    if systemDirectories.contains step then d.follow none rest
    else if rest.isEmpty then .ok (.absent [])
    else .error .missing
  | some at', [last] => d.entry (at' ++ [last])
  | some at', step :: rest => do
    match ← d.entry (at' ++ [step]) with
    | .directory => d.follow (some (at' ++ [step])) rest
    | .file _ => .error .notDirectory
    | .absent _ => .error .missing

/-- The steps of a path.  Several slashes count as one. -/
def stepsOf (path : String) : List String :=
  (path.splitOn "/").filter (· != "")

/-- Does the path end in a slash? -/
def endsInSlash (path : String) : Bool :=
  path.toList.getLast? == some '/'

/-- Files of the system that can be opened from anywhere and are read as empty. -/
def streams : List String :=
  ["/dev/full", "/dev/null", "/dev/stdin", "/dev/stdout"]

/-- What a path leads to.  The files of the system have no steps. -/
def find (d : Directory) (path : String) : Except FileProblem Target :=
  if path = "" then .error .missing
  else if maxPathBytes < path.utf8ByteSize then .error .nameTooLong
  else if streams.contains path then .ok (.file [])
  else d.follow (if path.toList.head? = some '/' then none else some []) (stepsOf path)

/-- The text of a file, or why it cannot be read. -/
def read (d : Directory) (path : String) : Except FileProblem String := do
  match ← d.find path with
  | .directory => .error .isDirectory
  | .absent _ => .error .missing
  | .file steps =>
    if endsInSlash path then .error .notDirectory
    else .ok ((d.text? steps).getD "")

/-- The path without its last step and the slashes behind it, if it ends in a slash. -/
def parentPath (path : String) : String :=
  let behindLast := (path.toList.reverse.dropWhile (· == '/')).dropWhile (· != '/')
  if behindLast.isEmpty then "." else String.ofList behindLast.reverse

/-- Why a file cannot be written, if it cannot.  A path that ends in a slash never names a file, so
only the directory around it is looked for. -/
def refusal (d : Directory) (path : String) : Option FileProblem :=
  let asksDirectory := endsInSlash path && !(stepsOf path).isEmpty
  match d.find (if asksDirectory then parentPath path else path) with
  | .error problem => some problem
  | .ok .directory => some .isDirectory
  | .ok (.file _) =>
    if asksDirectory then some .notDirectory
    else if path = "/dev/full" then some .noSpace
    else none
  | .ok (.absent _) => if asksDirectory then some .missing else none

/-- The directory with a text under some steps, of which a file of the system has none. -/
def put (d : Directory) (steps : List String) (text : String) : Directory :=
  if steps.isEmpty then d else ⟨(steps, text) :: d.files⟩

/-- The directory with a file written.  Nothing is written where that is refused. -/
def write (d : Directory) (path text : String) : Directory :=
  match d.refusal path, d.find path with
  | none, .ok (.file steps) => d.put steps text
  | none, .ok (.absent steps) => d.put steps text
  | _, _ => d

/-- The directory with the files of these names. -/
def ofFiles (files : List (String × String)) : Directory :=
  ⟨files.map fun (path, text) => (stepsOf path, text)⟩

/-- The surroundings of a program that is run in the directory. -/
def host (d : Directory) (logFilter : Option String) : Host :=
  ⟨logFilter, d.read, d.refusal⟩

end Directory

end Markbook
