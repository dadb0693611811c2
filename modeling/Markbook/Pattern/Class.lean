import Markbook.Pattern.Escape

/-!
# Classes in patterns

A class lists characters, ranges and other classes in brackets.  Two parts of it may have an
operator between them: `&&`, `--` or `~~`.  Hyphens at the start stand for themselves, and so does a
closing bracket there.

* `ClassSet.read?` — reads a class behind its opening bracket.
-/

namespace Markbook

/-- The named classes of ASCII. -/
def asciiClasses : List String :=
  ["alnum", "alpha", "ascii", "blank", "cntrl", "digit", "graph", "lower", "print", "punct",
    "space", "upper", "word", "xdigit"]

/-- Splits off a `^`, and tells whether there was one. -/
def spanNegation : List Char → Bool × List Char
  | '^' :: cs => (true, cs)
  | cs => (false, cs)

namespace ClassMember

/-- A class such as `[:alpha:]`, of which the opening bracket is read. -/
def readNamed? : List Char → Option (ClassMember × List Char)
  | ':' :: cs =>
    let (negated, cs) := spanNegation cs
    match cs.dropWhile (· != ':') with
    | ':' :: ']' :: rest =>
      if asciiClasses.contains (String.ofList (cs.takeWhile (· != ':'))) then
        some (plain !negated, rest)
      else none
    | _ => none
  | _ => none

/-- One end of a range, or a member without a range. -/
def readEnd? (verbose : Bool) : List Char → Option (Escape × List Char)
  | [] => none
  | '\\' :: cs => Escape.read? verbose cs
  | c :: cs => some (.char ⟨c, false⟩, cs)

/-- The member of an escape.  A place between characters cannot be one. -/
def ofEscape? : Escape → Option ClassMember
  | .char c => some (plain c.isAscii)
  | .named isAscii => some (plain isAscii)
  | .place _ => none

/-- The member of a range.  Both ends have to be characters, the first not beyond the second. -/
def ofRange? : Escape → Escape → Option ClassMember
  | .char low, .char high =>
    if low.char ≤ high.char then some (plain (low.isAscii && high.isAscii)) else none
  | _, _ => none

/-- The sign that comes next, comments being skipped as far as their first sign.  If only white
space follows, that is what comes. -/
def nextSign? (verbose : Bool) (cs : List Char) : Option Char :=
  if verbose then
    let sign := match cs.dropWhile isBlank with
      | '#' :: comment => comment.dropWhile isBlank
      | rest => rest
    sign.head?.or cs.head?
  else cs.head?

/-- A member or a range.  A hyphen in front of the closing bracket or of another hyphen does not
make a range. -/
def read? (verbose : Bool) (cs : List Char) : Option (ClassMember × List Char) := do
  let (low, rest) ← readEnd? verbose cs
  match skipComments verbose rest with
  | [] => none
  | '-' :: rest =>
    if nextSign? verbose rest = some ']' || nextSign? verbose rest = some '-' then
      return (← ofEscape? low, '-' :: rest)
    else
      let (high, rest) ← readEnd? verbose (skipComments verbose rest)
      return (← ofRange? low high, rest)
  | rest => return (← ofEscape? low, rest)

end ClassMember

/-! ## The whole class -/

/-- The start of a class behind its opening bracket: whether it is negated, the members that stand
for themselves, and the text behind them. -/
structure ClassStart where
  negated : Bool
  members : List ClassMember
  rest : List Char

/-- Splits off the hyphens in front, with the comments behind each of them. -/
def spanHyphens (verbose : Bool) : Nat → List Char → List ClassMember × List Char
  | fuel + 1, '-' :: cs =>
    let (members, rest) := spanHyphens verbose fuel (skipComments verbose cs)
    (.plain true :: members, rest)
  | _, cs => ([], cs)

/-- Reads the start of a class. -/
def ClassStart.read (verbose : Bool) (cs : List Char) : ClassStart :=
  let (negated, cs) := spanNegation (skipComments verbose cs)
  match skipComments verbose cs with
  | ']' :: rest => ⟨negated, [.plain true], rest⟩
  | cs =>
    let (members, rest) := spanHyphens verbose cs.length cs
    ⟨negated, members, rest⟩

namespace ClassSet

/-- A set with the part in front of the last operator, if there is one. -/
def behind (left : Option ClassSet) (members : List ClassMember) : ClassSet :=
  match left with
  | some left => combined left (union members)
  | none => union members

/-- Is this sign, written twice, an operator? -/
def isOperator (c : Char) : Bool :=
  c == '&' || c == '-' || c == '~'

/-- Reads the rest of a class up to its closing bracket.  The part in front of the last operator and
the members behind it are read already.  The number of characters bounds the number of steps. -/
def readFrom? (verbose : Bool) :
    Nat → Option ClassSet → List ClassMember → List Char → Option (ClassSet × List Char)
  | 0, _, _, _ => none
  | fuel + 1, left, members, cs =>
    match skipComments verbose cs with
    | [] => none
    | ']' :: rest => some (behind left members, rest)
    | '[' :: rest =>
      match ClassMember.readNamed? rest with
      | some (m, rest) => readFrom? verbose fuel left (members ++ [m]) rest
      | none => do
        let start := ClassStart.read verbose rest
        let (set, rest) ← readFrom? verbose fuel none start.members start.rest
        readFrom? verbose fuel left (members ++ [.nested start.negated set]) rest
    | c :: rest =>
      if isOperator c && rest.head? == some c then
        readFrom? verbose fuel (some (behind left members)) [] (rest.drop 1)
      else do
        let (m, rest) ← ClassMember.read? verbose (c :: rest)
        readFrom? verbose fuel left (members ++ [m]) rest

/-- Reads a class behind its opening bracket. -/
def read? (verbose : Bool) (cs : List Char) : Option (Pattern × List Char) := do
  let start := ClassStart.read verbose cs
  let (set, rest) ← readFrom? verbose (cs.length + 1) none start.members start.rest
  return (.class start.negated set, rest)

end ClassSet

end Markbook
