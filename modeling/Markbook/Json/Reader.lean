import Markbook.Json.Basic
import Markbook.Text.Hexadecimal

/-!
# Reading JSON

Every function here reads something from the front of a text and gives back what follows it.
Arrays and objects are read with the help of a reader for values that lie one level deeper, so the
recursion is on the depth.

* `Json.readString?`, `Json.readNumber?` — the parts.
* `Json.readValue?` — a value, `Json.parse?` a whole text.
-/

namespace Markbook.Json

/-- Skips white space, of which JSON has four kinds. -/
def skipBlanks (cs : List Char) : List Char :=
  cs.dropWhile fun c => c == ' ' || c == '\t' || c == '\n' || c == '\r'

/-! ## Strings

A string is read in two steps.  First its escapes are resolved, which leaves a list of characters
and of code units named by `\u`.  Then pairs of surrogates are joined.
-/

/-- A character of a string, or a code unit named by an escape. -/
inductive Piece where
  | char (c : Char)
  | unit (n : Nat)

/-- The value of four hexadecimal digits. -/
def hexUnit? (a b c d : Char) : Option Nat := do
  let a ← hexDigit? a
  let b ← hexDigit? b
  let c ← hexDigit? c
  let d ← hexDigit? d
  return ((a * 16 + b) * 16 + c) * 16 + d

/-- The character named by an escape of one letter. -/
def escaped? : Char → Option Char
  | '"' => some '"'
  | '\\' => some '\\'
  | '/' => some '/'
  | 'b' => some '\x08'
  | 'f' => some '\x0c'
  | 'n' => some '\n'
  | 'r' => some '\r'
  | 't' => some '\t'
  | _ => none

/-- Reads the pieces of a string up to its closing quote. -/
def readPieces? : List Char → Option (List Piece × List Char)
  | [] => none
  | '"' :: cs => some ([], cs)
  | '\\' :: 'u' :: a :: b :: c :: d :: cs => do
    let n ← hexUnit? a b c d
    let (ps, cs) ← readPieces? cs
    return (.unit n :: ps, cs)
  | '\\' :: e :: cs => do
    let c ← escaped? e
    let (ps, cs) ← readPieces? cs
    return (.char c :: ps, cs)
  | c :: cs =>
    if c.toNat < 0x20 then none
    else do
      let (ps, cs) ← readPieces? cs
      return (.char c :: ps, cs)

/-- Is this the first half of a pair of surrogates? -/
def isHighSurrogate (n : Nat) : Bool :=
  0xd800 ≤ n && n < 0xdc00

/-- Is this the second half of a pair of surrogates? -/
def isLowSurrogate (n : Nat) : Bool :=
  0xdc00 ≤ n && n < 0xe000

/-- The text of a list of pieces, if every surrogate in it has its partner next to it. -/
def joinPieces? : List Piece → Option (List Char)
  | [] => some []
  | .char c :: ps => (joinPieces? ps).map (c :: ·)
  | .unit high :: .unit low :: ps =>
    if isHighSurrogate high && isLowSurrogate low then
      (joinPieces? ps).map
        (Char.ofNat (0x10000 + (high - 0xd800) * 0x400 + (low - 0xdc00)) :: ·)
    else if isHighSurrogate high || isLowSurrogate high then none
    else (joinPieces? (.unit low :: ps)).map (Char.ofNat high :: ·)
  | .unit n :: ps =>
    if isHighSurrogate n || isLowSurrogate n then none
    else (joinPieces? ps).map (Char.ofNat n :: ·)

/-- Reads a string behind its opening quote. -/
def readString? (cs : List Char) : Option (Option String × List Char) := do
  let (pieces, cs) ← readPieces? cs
  return ((joinPieces? pieces).map String.ofList, cs)

/-! ## Numbers -/

/-- Reads the whole part of a number, which starts with a zero only if it is zero. -/
def readWhole? (cs : List Char) : Option (List Char × List Char) :=
  match spanDigits cs with
  | ([], _) => none
  | ('0' :: _ :: _, _) => none
  | (digits, cs) => some (digits, cs)

/-- Reads digits, of which there must be at least one. -/
def readDigits? (cs : List Char) : Option (List Char × List Char) :=
  match spanDigits cs with
  | ([], _) => none
  | (digits, cs) => some (digits, cs)

/-- Reads the fraction of a number, if it has one. -/
def readFraction? : List Char → Option (List Char × List Char)
  | '.' :: cs => readDigits? cs
  | cs => some ([], cs)

/-- Reads an exponent behind its mark. -/
def readPower? (cs : List Char) : Option (Int × List Char) := do
  let (negative, cs) := spanSign cs
  let (digits, cs) ← readDigits? cs
  return (if negative then -(readDigits digits : Int) else readDigits digits, cs)

/-- Reads the exponent of a number, if it has one. -/
def readExponent? : List Char → Option (Int × List Char)
  | 'e' :: cs => readPower? cs
  | 'E' :: cs => readPower? cs
  | cs => some (0, cs)

/-- Reads a number. -/
def readNumber? (cs : List Char) : Option (Json × List Char) := do
  let (negative, cs) := match cs with
    | '-' :: cs => (true, cs)
    | cs => (false, cs)
  let (whole, cs) ← readWhole? cs
  let (fraction, cs) ← readFraction? cs
  let (exponent, cs) ← readExponent? cs
  return (number negative ⟨whole, fraction, exponent⟩, cs)

/-! ## Arrays and objects -/

/-- Reads the elements of an array that has some, up to its closing bracket.  The number bounds how
many there can be. -/
def readElements? (value : List Char → Option (Json × List Char)) :
    Nat → List Char → Option (List Json × List Char)
  | 0, _ => none
  | n + 1, cs => do
    let (x, cs) ← value cs
    match skipBlanks cs with
    | ',' :: cs =>
      let (xs, cs) ← readElements? value n cs
      return (x :: xs, cs)
    | ']' :: cs => return ([x], cs)
    | _ => none

/-- Reads a member of an object. -/
def readMember? (value : List Char → Option (Json × List Char)) (cs : List Char) :
    Option ((Option String × Json) × List Char) :=
  match skipBlanks cs with
  | '"' :: cs => do
    let (name, cs) ← readString? cs
    match skipBlanks cs with
    | ':' :: cs =>
      let (x, cs) ← value cs
      return ((name, x), cs)
    | _ => none
  | _ => none

/-- Reads the members of an object that has some, up to its closing brace.  The number bounds how
many there can be. -/
def readMembers? (value : List Char → Option (Json × List Char)) :
    Nat → List Char → Option (List (Option String × Json) × List Char)
  | 0, _ => none
  | n + 1, cs => do
    let (m, cs) ← readMember? value cs
    match skipBlanks cs with
    | ',' :: cs =>
      let (ms, cs) ← readMembers? value n cs
      return (m :: ms, cs)
    | '\x7d' :: cs => return ([m], cs)
    | _ => none

/-- Reads an array behind its opening bracket. -/
def readArray? (value : List Char → Option (Json × List Char)) (cs : List Char) :
    Option (Json × List Char) :=
  match skipBlanks cs with
  | ']' :: cs => some (array [], cs)
  | _ => (readElements? value cs.length cs).map fun (xs, cs) => (array xs, cs)

/-- Reads an object behind its opening brace. -/
def readObject? (value : List Char → Option (Json × List Char)) (cs : List Char) :
    Option (Json × List Char) :=
  match skipBlanks cs with
  | '\x7d' :: cs => some (object [], cs)
  | _ => (readMembers? value cs.length cs).map fun (ms, cs) => (object ms, cs)

/-- Reads a value that is nested to no more than the given depth. -/
def readValue? : Nat → List Char → Option (Json × List Char)
  | 0, _ => none
  | depth + 1, cs =>
    match skipBlanks cs with
    | 'n' :: 'u' :: 'l' :: 'l' :: cs => some (null, cs)
    | 't' :: 'r' :: 'u' :: 'e' :: cs => some (bool true, cs)
    | 'f' :: 'a' :: 'l' :: 's' :: 'e' :: cs => some (bool false, cs)
    | '"' :: cs => (readString? cs).map fun (content, cs) => (text content, cs)
    | '[' :: cs => readArray? (readValue? depth) cs
    | '\x7b' :: cs => readObject? (readValue? depth) cs
    | cs => readNumber? cs

/-- Reads a text that holds one value and nothing else.  A value cannot be nested deeper than its
text is long. -/
def parse? (content : String) : Option Json :=
  let cs := content.toList
  match readValue? (cs.length + 1) cs with
  | some (x, cs) => if skipBlanks cs = [] then some x else none
  | none => none

end Markbook.Json
