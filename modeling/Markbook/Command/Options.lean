/-!
# Options on a command line

A command line is a list of words.  Words that start with a dash name options, in a long form such
as `--delimiter ;` or `--delimiter=;`, or in a short form such as `-d ;` or `-d;`.  All other words
are operands, and so is everything behind the word `--`.

* `OptionSpec` — an option that a command has.
* `Gathered` — the options and operands found so far.
* `gather` — reads the words of a command.
* `splitCommand` — reads the options in front of a command.
-/

namespace Markbook

/-- What an option does when it is found. -/
inductive OptionKind where
  /-- Shows the usage of the program. -/
  | help
  /-- Shows the version of the program. -/
  | version
  /-- Is switched on, at most once. -/
  | switch
  /-- Takes a value, at most once. -/
  | single
  /-- Takes a value, any number of times. -/
  | repeated
  deriving DecidableEq, Repr

/-- An option that a command has. -/
structure OptionSpec where
  long : String
  short : Option Char
  kind : OptionKind
  /-- May this be the value of the option? -/
  accepts : String → Bool

/-- Does the option take a value? -/
def OptionSpec.takesValue (o : OptionSpec) : Bool :=
  o.kind == .single || o.kind == .repeated

/-- Why a command line is not carried out. -/
inductive Stop where
  | help
  | version
  | misuse
  deriving DecidableEq, Repr

/-- The options, under their long names, and the operands of a command. -/
structure Gathered where
  options : List (String × String)
  operands : List String

namespace Gathered

/-- Nothing found yet. -/
def empty : Gathered :=
  ⟨[], []⟩

/-- The values given to an option, in order. -/
def values (g : Gathered) (long : String) : List String :=
  (g.options.filter (·.1 == long)).map (·.2)

/-- The value given to an option. -/
def value? (g : Gathered) (long : String) : Option String :=
  (g.values long).head?

/-- Was the option given? -/
def has (g : Gathered) (long : String) : Bool :=
  g.options.any (·.1 == long)

/-- Adds an option with its value; a switch has the empty value. -/
def addOption (g : Gathered) (o : OptionSpec) (value : String) : Except Stop Gathered :=
  if o.kind != .repeated && g.has o.long then .error .misuse
  else if o.takesValue && !o.accepts value then .error .misuse
  else .ok { g with options := g.options ++ [(o.long, value)] }

/-- Adds an operand, if the command takes one more and accepts this one. -/
def addOperand (accepts : List (String → Bool)) (g : Gathered) (text : String) :
    Except Stop Gathered :=
  match accepts[g.operands.length]? with
  | some p => if p text then .ok { g with operands := g.operands ++ [text] } else .error .misuse
  | none => .error .misuse

end Gathered

/-! ## One word

The answer for a word is what has been gathered with it, and the option that waits for its value in
the next word.
-/

/-- Carries out an option without a value. -/
def useSwitch (g : Gathered) (o : OptionSpec) : Except Stop Gathered :=
  match o.kind with
  | .help => .error .help
  | .version => .error .version
  | _ => g.addOption o ""

/-- A long option, behind its two dashes. -/
def useLong (specs : List OptionSpec) (g : Gathered) (cs : List Char) :
    Except Stop (Gathered × Option OptionSpec) :=
  let name := String.ofList (cs.takeWhile (· != '='))
  match specs.find? (·.long == name), cs.dropWhile (· != '=') with
  | none, _ => .error .misuse
  | some o, [] =>
    if o.takesValue then .ok (g, some o) else (useSwitch g o).map fun g => (g, none)
  | some o, _ :: value =>
    if o.takesValue then (g.addOption o (String.ofList value)).map fun g => (g, none)
    else .error .misuse

/-- Short options, behind their dash.  Switches may be written together, and the value of an option
may follow it at once or behind a `=`. -/
def useShort (specs : List OptionSpec) (g : Gathered) :
    List Char → Except Stop (Gathered × Option OptionSpec)
  | [] => .ok (g, none)
  | c :: cs =>
    match specs.find? (·.short == some c) with
    | none => .error .misuse
    | some o =>
      if o.takesValue then
        match cs with
        | [] => .ok (g, some o)
        | '=' :: value => (g.addOption o (String.ofList value)).map fun g => (g, none)
        | value => (g.addOption o (String.ofList value)).map fun g => (g, none)
      else
        match useSwitch g o with
        | .error stop => .error stop
        | .ok g => useShort specs g cs

/-- Does a word name an option?  A lone dash does not. -/
def namesOption (word : String) : Bool :=
  word.toList.head? == some '-' && word != "-"

/-- A word that names an option. -/
def useOption (specs : List OptionSpec) (g : Gathered) (word : String) :
    Except Stop (Gathered × Option OptionSpec) :=
  match word.toList with
  | '-' :: '-' :: cs => useLong specs g cs
  | _ :: cs => useShort specs g cs
  | [] => .ok (g, none)

/-! ## All words -/

/-- Reads the words of a command.  The option in front, if any, waits for its value. -/
def gather (specs : List OptionSpec) (accepts : List (String → Bool)) :
    Option OptionSpec → Gathered → List String → Except Stop Gathered
  | some _, _, [] => .error .misuse
  | none, g, [] => .ok g
  | some o, g, word :: rest =>
    if namesOption word then .error .misuse
    else do
      let g ← g.addOption o word
      gather specs accepts none g rest
  | none, g, word :: rest =>
    if word = "--" then rest.foldlM (Gathered.addOperand accepts) g
    else if namesOption word then do
      let (g, waiting) ← useOption specs g word
      gather specs accepts waiting g rest
    else do
      let g ← g.addOperand accepts word
      gather specs accepts none g rest

/-- Reads the options in front of a command.  The answer holds the name of the command and the words
that follow it. -/
def splitCommand (specs : List OptionSpec) :
    Option OptionSpec → Gathered → List String →
      Except Stop (Gathered × String × List String)
  | _, _, [] => .error .misuse
  | some o, g, word :: rest =>
    if namesOption word then .error .misuse
    else do
      let g ← g.addOption o word
      splitCommand specs none g rest
  | none, g, word :: rest =>
    if word = "--" then .error .misuse
    else if namesOption word then do
      let (g, waiting) ← useOption specs g word
      splitCommand specs waiting g rest
    else .ok (g, word, rest)

end Markbook
