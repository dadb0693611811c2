import Markbook.Book.File
import Markbook.Command.Host
import Markbook.Command.LogFilter
import Markbook.Command.Request
import Markbook.Formula.Printer
import Markbook.Formula.Substitution
import Markbook.Report.Calculation
import Markbook.Report.Table

/-!
# Answering requests

A request is answered with a text for the standard output, messages, an exit code and perhaps a file
to be written.  All of this is decided here; what lies outside is described by a `Host`.

* `Outcome` — the answer.
* `Request.run` — answers a request, `runWords` a whole command line.
-/

namespace Markbook

/-- What the program answers. -/
structure Outcome where
  exit : Nat
  stdout : String
  stderr : String
  /-- A file to be written, with its text. -/
  file : Option (String × String)

namespace Outcome

/-- A success that prints a text. -/
def print (text : String) : Outcome :=
  ⟨0, text, "", none⟩

/-- One cause of a failure, its further lines being indented below the first. -/
def cause (first further : String) (text : String) : String :=
  first ++ ("\n" ++ further).intercalate (text.splitOn "\n")

/-- The causes of a failure, which are numbered if there are several. -/
def causes : List String → String
  | [] => ""
  | [text] => "\n\nCaused by:\n" ++ cause "    " "    " text
  | texts =>
    let numbered := texts.mapIdx fun n text =>
      cause ("    " ++ toString n ++ ": ") "       " text
    "\n\nCaused by:\n" ++ "\n".intercalate numbered

/-- The end of a program that cannot go on. -/
def crash : Outcome :=
  ⟨101, "", "", none⟩

/-- A failure, with what was being done and why it failed. -/
def fail (context : String) (reasons : List String) : Outcome :=
  ⟨1, "", "Error: " ++ context ++ causes reasons ++ "\n", none⟩

/-- An outcome with a message in front of the others. -/
def warn (message : String) (o : Outcome) : Outcome :=
  { o with stderr := message ++ o.stderr }

end Outcome

/-- A text in single quotes. -/
def inQuotes (text : String) : String :=
  "'" ++ text ++ "'"

/-! ## Formulas -/

/-- Answers with the value of a formula. -/
def runEvaluate (formula : String) (scores : List (String × Float)) (strict : Bool) : Outcome :=
  let b := Bindings.ofList scores
  if strict then
    match evaluateFormula .strict b formula with
    | .ok x => .print (printScore x ++ "\n")
    | .error e => .fail ("Failed to evaluate " ++ inQuotes formula) [e.message]
  else .print (printScore (orZero (evaluateFormula .lenient b formula)) ++ "\n")

/-- Answers with a formula in full parentheses and the names that it reads. -/
def runCheck (formula : String) : Outcome :=
  match Formula.read .strict [] formula with
  | .ok f =>
    .print ("expression: " ++ f.print ++ "\nreferences: " ++ ", ".intercalate f.references ++ "\n")
  | .error e => .fail ("Invalid formula " ++ inQuotes formula) [e.message]

/-! ## Reports -/

/-- Calculates the report of one student or of all. -/
def calculate (b : Book) (mode : Mode) : Option String → Except BookError ClassReport
  | none => b.calculateAll mode
  | some id => do
    let report ← b.calculateStudent mode id
    return ⟨[report], ⟨1, 0, 0, 0⟩⟩

/-- What was being done when a calculation failed. -/
def calculationContext : Option String → String
  | none => "Failed to calculate gradebook"
  | some id => "Failed to calculate student " ++ inQuotes id

/-- The warning about items on a cycle. -/
def circularWarning (c : ClassReport) : String :=
  match c.students with
  | r :: _ =>
    if r.circular = [] then ""
    else "Warning: circular formulas scored as 0: " ++ ", ".intercalate r.circular ++ "\n"
  | [] => ""

/-- The message about what a calculation of all students did. -/
def tallyMessage (t : Tally) : String :=
  "Calculated " ++ toString t.students ++ " students (" ++ toString t.evaluated ++ " formulas, "
    ++ toString t.zeroed ++ " zeroed)\n"

/-- Hands over the text of a report: to a file if one is named, else to the standard output. -/
def deliver (host : Host) (text : String) (students : Nat) : Option String → Outcome
  | none => .print text
  | some path =>
    match host.refusal path with
    | some problem =>
      .fail ("Failed to write " ++ inQuotes path) ["IO error: " ++ problem.message, problem.message]
    | none =>
      let message := "Wrote " ++ toString students ++ " students to " ++ path ++ "\n"
      ⟨0, "", message, some (path, text)⟩

/-- An outcome that closes with the message about all students, unless it is a failure or only one
student was asked for. -/
def closeWith (c : ClassReport) (student : Option String) (o : Outcome) : Outcome :=
  if o.exit = 0 ∧ student = none then { o with stderr := o.stderr ++ tallyMessage c.tally } else o

/-- Answers with the report of a book. -/
def reportBook (host : Host) (b : Book) (student table : Option String) (delimiter : Char)
    (mode : Mode) : Outcome :=
  match calculate b mode student with
  | .error e => .fail (calculationContext student) [e.message]
  | .ok c =>
    let answer := match b.writeReport { TableFormat.default with delimiter } c.students with
      | some text => closeWith c student (deliver host text c.students.length table)
      | none => .fail "Failed to write report" []
    answer.warn (circularWarning c)

/-- Answers with the report of the book in a file. -/
def runReport (host : Host) (input : String) (student table : Option String) (delimiter : Char)
    (mode : Mode) : Outcome :=
  if 0x80 ≤ delimiter.toNat then
    .fail ("Delimiter must be a single ASCII character, got " ++ inQuotes (delimiter.toString)) []
  else match host.read input with
    | .error problem => .fail ("Failed to read " ++ inQuotes input) [problem.message]
    | .ok content =>
      match Book.load content with
      | .error e => .fail ("Failed to load gradebook " ++ inQuotes input) [e.message]
      | .ok b => reportBook host b student table delimiter mode

/-! ## Requests -/

/-- Answers a request. -/
def Request.run (host : Host) : Request → Outcome
  | evaluate formula scores strict => runEvaluate formula scores strict
  | substitute formula scores => .print (Markbook.substitute (.ofList scores) formula ++ "\n")
  | check formula => runCheck formula
  | report input student table delimiter strict =>
    runReport host input student table delimiter (if strict then .strict else .lenient)

/-- What is wrong with the log filter, if anything is.  That of the command line only counts where
the environment has none that can be read, but a cut inside a character ends the program at once. -/
def Invocation.filterProblem? (i : Invocation) (host : Host) : Option FilterProblem :=
  match host.logFilter.map Markbook.filterProblem? with
  | some none => none
  | some (some .cut) => some .cut
  | _ => Markbook.filterProblem? i.logFilter

/-- Answers a request once its log filter is found to be fine. -/
def Invocation.run (i : Invocation) (host : Host) : Outcome :=
  match i.filterProblem? host with
  | some .cut => .crash
  | some problem =>
    .fail ("invalid log level/filter " ++ inQuotes i.logFilter ++ ": unable to build EnvFilter")
      problem.messages
  | none => i.request.run host

/-- The name and the version of the program. -/
def versionText : String :=
  "grade 0.1.0\n"

/-- How the program is used. -/
def usageText : String :=
  "Grade formula evaluation and gradebook reports\n\n"
    ++ "Usage: grade [--log-level FILTER] COMMAND\n\n"
    ++ "Commands:\n"
    ++ "  eval FORMULA [-v NAME=VALUE]... [--strict]  print the score of a formula\n"
    ++ "  resolve FORMULA [-v NAME=VALUE]...          print a formula with scores written in\n"
    ++ "  check FORMULA                               list the names that a formula reads\n"
    ++ "  calc INPUT [-s ID] [--csv FILE] [-d CHAR] [--strict]\n"
    ++ "                                              print or write the report of a gradebook\n"

/-- Answers a command line. -/
def runWords (host : Host) (words : List String) : Outcome :=
  match Invocation.ofWords words with
  | .ok i => i.run host
  | .error .help => .print usageText
  | .error .version => .print versionText
  | .error .misuse => ⟨2, "", usageText, none⟩

end Markbook
