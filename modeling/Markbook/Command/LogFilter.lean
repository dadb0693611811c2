import Markbook.Decimal.Reader
import Markbook.Pattern.Reader
import Markbook.Text.Bytes

/-!
# Log filters

What is logged is set by a filter: a list of directives with commas between them, of which some may
be empty.  A directive is a level, or a target with an optional level, and a target may go on with a
span in brackets.

```text
directive := level | target ['[' span ']'] ['=' level] | '[' span ']' ['=' level]
span      := name | [name] '{' field '}'
field     := name ['=' (number | pattern)]
level     := off | error | warn | info | debug | trace | 0 .. 5
```

The program writes no log, but it refuses a filter that it cannot read.

White space around a directive is skipped in finding its parts.  The parts are then cut out of the
directive with that white space, at the places where they were found without it, so white space in
front moves every cut to the left of where it should be.

* `directiveProblem?` — what is wrong with a directive.
* `filterProblem?` — what is wrong with a filter.
-/

namespace Markbook

/-- What is wrong with a filter. -/
inductive FilterProblem where
  | directive
  | level
  | field
  /-- A part would have to be cut out in the middle of a character. -/
  | cut
  deriving DecidableEq, Repr

/-- The wording of a problem, from the outermost to the innermost cause. -/
def FilterProblem.messages : FilterProblem → List String
  | directive => ["invalid filter directive"]
  | level =>
    let text := "error parsing level filter: expected one of \"off\", \"error\", \"warn\", "
      ++ "\"info\", \"debug\", \"trace\", or a number 0-5"
    [text, text]
  | field => ["invalid field filter"]
  | cut => []

/-! ## Levels and fields -/

/-- The names of the levels. -/
def levelNames : List String :=
  ["off", "error", "warn", "info", "debug", "trace"]

/-- Is this the number of a level, written with or without a sign? -/
def isLevelNumber (cs : List Char) : Bool :=
  let digits := match cs with
    | '+' :: digits => digits
    | digits => digits
  let significant := digits.dropWhile (· == '0')
  digits != [] && digits.all Char.isDigit
    && (significant == [] || (significant.length == 1 && significant.all (· ≤ '5')))

/-- Is this a level behind a `=`, where it may be missing? -/
def isLevel (cs : List Char) : Bool :=
  cs.isEmpty || levelNames.contains (String.ofList (cs.map Char.toLower)) || isLevelNumber cs

/-- Can the value of this field be compared?  Of the text behind the name, only what stands in front
of a second `=` counts. -/
def isField (cs : List Char) : Bool :=
  match cs.dropWhile (· != '=') with
  | [] => true
  | _ :: rest =>
    let value := rest.takeWhile (· != '=')
    (readScore? (String.ofList value)).isSome || isPattern value

/-- May a target start with this character? -/
def startsTarget (c : Char) : Bool :=
  c == '-' || c == ':' || isNameChar c

/-! ## One directive -/

/-- Where in a directive a character stands.  The parts that are still open know the place where
they started. -/
inductive FilterPlace where
  | start
  | target
  | span (start : Nat)
  | field (start : Nat)
  | behindField
  | behindSpan
  | level (start : Nat)

namespace FilterPlace

/-- Cuts a part out of a directive. -/
def part (directive : List Char) (start stop : Nat) : Except FilterProblem (List Char) :=
  match cutBytes? directive start stop with
  | some text => .ok text
  | none => .error .cut

/-- The place behind the character `c`, which stands `i` bytes into the directive. -/
def next (directive : List Char) (place : FilterPlace) (i : Nat) (c : Char) :
    Except FilterProblem FilterPlace :=
  match place, c with
  | start, '[' => .ok (span (i + 1))
  | start, c => if startsTarget c then .ok target else .error .directive
  | target, '=' => do
    let _ ← part directive 0 i
    return level (i + 1)
  | target, '[' => do
    let _ ← part directive 0 i
    return span (i + 1)
  | target, _ => .ok target
  | span from', ']' => do
    let _ ← part directive from' i
    return behindSpan
  | span from', '\x7b' => do
    let _ ← part directive from' i
    return field (i + 1)
  | span from', _ => .ok (span from')
  | field from', '\x7d' => do
    let text ← part directive from' i
    if text.isEmpty then .error .directive
    else if isField text then .ok behindField
    else .error .field
  | field from', _ => .ok (field from')
  | behindField, ']' => .ok behindSpan
  | behindField, _ => .error .directive
  | behindSpan, '=' => .ok (level (i + 1))
  | behindSpan, _ => .error .directive
  | level from', _ => .ok (level from')

/-- The place at the end of `cs`, which starts `i` bytes into the directive. -/
def follow (directive : List Char) :
    FilterPlace → Nat → List Char → Except FilterProblem FilterPlace
  | place, _, [] => .ok place
  | place, i, c :: cs => do
    let place ← place.next directive i c
    place.follow directive (i + c.utf8Size) cs

/-- May a directive end here?  A level reaches to its end. -/
def finish (directive : List Char) : FilterPlace → Except FilterProblem Unit
  | target => .ok ()
  | behindSpan => .ok ()
  | level from' => do
    let text ← part directive from' (byteLength directive)
    if isLevel text then .ok () else .error .level
  | _ => .error .directive

end FilterPlace

/-- What is wrong with a directive. -/
def directiveProblem? (directive : List Char) : Option FilterProblem :=
  let answer := do
    let place ← FilterPlace.start.follow directive 0 (trimBlanks directive)
    place.finish directive
  match answer with
  | .ok () => none
  | .error problem => some problem

/-! ## Filters -/

/-- What is wrong with a filter, if anything is.  Empty directives are skipped. -/
def filterProblem? (text : String) : Option FilterProblem :=
  ((text.splitOn ",").filter (· != "")).findSome? fun d => directiveProblem? d.toList

end Markbook
