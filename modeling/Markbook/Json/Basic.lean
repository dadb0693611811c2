import Markbook.Decimal.Layout
import Markbook.Decimal.Reader

/-!
# JSON values

Mark books are kept in JSON files.  Numbers are kept as they are written, because whether one is in
range matters only where it is used.  The same holds for text: an escape can name half of a pair of
surrogates, and text with a half that has no other half is no text at all.

* `Json` — the values.
* `Json.number?`, `Json.text?` — a value as a score or as text.
* `Json.fields?` — a value as a record with named fields.
-/

namespace Markbook

/-- A JSON value.  The text of a string is absent when a surrogate in it has no partner. -/
inductive Json where
  | null
  | bool (value : Bool)
  | number (negative : Bool) (numeral : Numeral)
  | text (content : Option String)
  | array (elements : List Json)
  | object (members : List (Option String × Json))

namespace Json

/-! ## Numbers

A number becomes a score in a way that is quick but not always the nearest double: as many digits as
fit into sixty-four bits are gathered into a whole number, and that is multiplied or divided by a
power of ten.  A number beyond the range of a double is an error.
-/

/-- The greatest whole number that is gathered from digits. -/
def maxGathered : Nat := Nat.pow 2 64 - 1

/-- Gathers digits as long as they fit.  The answer is the number gathered and how many digits went
into it. -/
def gather : Nat → Nat → List Char → Nat × Nat
  | n, taken, [] => (n, taken)
  | n, taken, c :: cs =>
    let next := 10 * n + (c.toNat - '0'.toNat)
    if next ≤ maxGathered then gather next (taken + 1) cs else (n, taken)

/-- Multiplies or divides by a power of ten, in steps of `10 ^ 308` on the way down.  There is no
answer when it would be infinite. -/
def scale : Nat → Float → Int → Option Float
  | 0, x, _ => some x
  | steps + 1, x, exponent =>
    if exponent.natAbs ≤ 308 then
      let power := Float.ofScientific 1 false exponent.natAbs
      if 0 ≤ exponent then
        let y := x * power
        if y.isInf then none else some y
      else some (x / power)
    else if x == 0 then some x
    else if 0 ≤ exponent then none
    else scale steps (x / Float.ofScientific 1 false 308) (exponent + 308)

/-- The greatest exponent that is taken at its word.  Beyond it a number is zero or out of range. -/
def maxExponent : Int := Nat.pow 2 31 - 1

/-- The score that an unsigned number stands for, if it is in range. -/
def magnitude? (n : Numeral) : Option Float :=
  let (whole, taken) := gather 0 0 n.whole
  let dropped : Int := n.whole.length - taken
  let (gathered, places) := gather whole 0 n.fraction
  if n.exponent.natAbs ≤ maxExponent then
    let exponent := dropped - places + n.exponent
    -- four steps bring any number that fits into sixty-four bits down to zero
    scale 4 (UInt64.ofNat gathered).toFloat (max (-maxExponent - 1) (min maxExponent exponent))
  else if gathered = 0 ∨ n.exponent < 0 then some 0
  else none

/-- A value as a score. -/
def number? : Json → Option Float
  | number negative n => (magnitude? n).map fun x => if negative then -x else x
  | _ => none

/-- How scores are written in a file: a whole number ends in `.0`, and there is an exponent from
`10 ^ 16` up and below `10 ^ -5`. -/
def layout : Layout :=
  { tie := .toEven
    positional := fun point => -5 < point && point ≤ 16
    pointZero := true
    plusSign := true }

/-- A score as a value.  Scores that are not finite have no number and are written as `null`. -/
def ofFloat (x : Float) : Json :=
  match Double.ofFloat x with
  | .finite negative significand exponent => number negative (layout.numeral significand exponent)
  | _ => null

/-! ## Text and records -/

/-- A value as text. -/
def text? : Json → Option String
  | text content => content
  | _ => none

/-- The value of a text. -/
def ofText (content : String) : Json :=
  text (some content)

/-- A value as a list. -/
def elements? : Json → Option (List Json)
  | array xs => some xs
  | _ => none

/-- The member of an object under a name: absent if there is none, refused if there are two. -/
def member? (members : List (String × Json)) (name : String) : Option (Option Json) :=
  match members.filter (·.1 == name) with
  | [] => some none
  | [(_, x)] => some (some x)
  | _ => none

/-- The members of an object, all of whose names must be text. -/
def members? : Json → Option (List (String × Json))
  | object ms => ms.mapM fun (name, x) => name.map (·, x)
  | _ => none

/-- A value as a record with the given fields.  A record is an object, whose other members are
ignored, or an array that lists the fields in order; in both, fields may be absent. -/
def fields? (names : List String) : Json → Option (List (Option Json))
  | object ms => do
    let ms ← members? (object ms)
    names.mapM (member? ms)
  | array xs =>
    if xs.length ≤ names.length then
      some (xs.map some ++ List.replicate (names.length - xs.length) none)
    else none
  | _ => none

end Json

end Markbook
