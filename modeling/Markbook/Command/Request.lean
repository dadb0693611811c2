import Markbook.Command.Options
import Markbook.Decimal.Reader
import Markbook.Text.Blank

/-!
# Requests on the command line

The program answers four requests: the value of a formula, the formula with the scores written in,
the names that a formula reads, and the report of a mark book.

* `Request` — what is asked for.
* `Invocation` — a request with the log filter that goes with it.
* `Invocation.ofWords` — reads a command line.
-/

namespace Markbook

/-- What a command line asks for. -/
inductive Request where
  | evaluate (formula : String) (scores : List (String × Float)) (strict : Bool)
  | substitute (formula : String) (scores : List (String × Float))
  | check (formula : String)
  | report (input : String) (student table : Option String) (delimiter : Char) (strict : Bool)

/-- A request and the log filter of the command line. -/
structure Invocation where
  logFilter : String
  request : Request

/-! ## Options -/

/-- An option without a value. -/
def switch (long : String) (kind : OptionKind) (short : Option Char) : OptionSpec :=
  ⟨long, short, kind, fun _ => true⟩

/-- Shows the usage. -/
def helpOption : OptionSpec :=
  switch "help" .help (some 'h')

/-- Sets the log filter. -/
def logOption : OptionSpec :=
  ⟨"log-level", none, .single, fun _ => true⟩

/-- Makes mistakes in formulas errors. -/
def strictOption : OptionSpec :=
  switch "strict" .switch none

/-- Splits a text at its last `=`. -/
def splitAssignment? (cs : List Char) : Option (List Char × List Char) :=
  let value := (cs.reverse.takeWhile (· != '=')).reverse
  if cs.contains '=' then some (cs.take (cs.length - value.length - 1), value) else none

/-- Reads a score given to a name, as in `Test 1=17.5`. -/
def readAssignment? (text : String) : Option (String × Float) := do
  let (name, value) ← splitAssignment? text.toList
  if (trimBlanks name).isEmpty then none
  else
    let score ← readScore? (String.ofList (trimBlanks value))
    return (String.ofList name, score)

/-- Gives a score to a name. -/
def scoreOption : OptionSpec :=
  ⟨"var", some 'v', .repeated, fun text => (readAssignment? text).isSome⟩

/-- Is this the name of a file? -/
def isPath (text : String) : Bool :=
  text != ""

/-- The options of a report. -/
def reportOptions : List OptionSpec :=
  [⟨"student", some 's', .single, fun _ => true⟩,
    ⟨"csv", none, .single, isPath⟩,
    ⟨"delimiter", some 'd', .single, fun text => text.length == 1⟩,
    strictOption]

/-! ## Requests -/

/-- The scores given to names. -/
def Gathered.scores (g : Gathered) : List (String × Float) :=
  (g.values "var").filterMap readAssignment?

/-- The names of the commands.  `report` is another name of `calc`. -/
def commandNames : List String :=
  ["eval", "resolve", "check", "calc", "report", "help"]

/-- Reads the words of a command with the given options and one operand. -/
def gatherOne (options : List OptionSpec) (accepts : String → Bool) (words : List String) :
    Except Stop (Gathered × String) := do
  let g ← gather (helpOption :: logOption :: options) [accepts] none .empty words
  match g.operands with
  | [operand] => return (g, operand)
  | _ => throw .misuse

/-- Reads the words of the command with this name. -/
def readCommand (name : String) (words : List String) : Except Stop (Gathered × Request) := do
  match name with
  | "eval" =>
    let (g, formula) ← gatherOne [scoreOption, strictOption] (fun _ => true) words
    return (g, .evaluate formula g.scores (g.has "strict"))
  | "resolve" =>
    let (g, formula) ← gatherOne [scoreOption] (fun _ => true) words
    return (g, .substitute formula g.scores)
  | "check" =>
    let (g, formula) ← gatherOne [] (fun _ => true) words
    return (g, .check formula)
  | "calc" | "report" =>
    let (g, input) ← gatherOne reportOptions isPath words
    let delimiter := (g.value? "delimiter").bind (·.toList.head?)
    return (g, .report input (g.value? "student") (g.value? "csv") (delimiter.getD ',')
      (g.has "strict"))
  | "help" =>
    match words with
    | [] => throw .help
    | [topic] => throw (if commandNames.contains topic then .help else .misuse)
    | _ => throw .misuse
  | _ => throw .misuse

/-- Reads a command line.  The log filter may be given in front of the command or behind it; the one
behind it counts. -/
def Invocation.ofWords (words : List String) : Except Stop Invocation := do
  let general := [helpOption, switch "version" .version (some 'V'), logOption]
  let (front, name, rest) ← splitCommand general none .empty words
  let (g, request) ← readCommand name rest
  return ⟨((g.value? "log-level").or (front.value? "log-level")).getD "warn", request⟩

end Markbook
