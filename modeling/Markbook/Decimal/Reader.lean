import Markbook.Decimal.Numeral

/-!
# Reading scores

A score is typed as an optional sign, digits with at most one point among them, and an optional
power of ten; infinities and NaN are typed by name.  The value is the double nearest to the decimal.

* `Decimal.toFloat` — the nearest double, found without ever building a power of ten that is far
  out of range.
* `readNumeral?` — an unsigned number.
* `readScore?` — the whole grammar.
-/

namespace Markbook

/-- Positive infinity. -/
def infinity : Float := 1.0 / 0.0

/-- Not a number. -/
def notANumber : Float := 0.0 / 0.0

/-- The double nearest to a decimal.  Beyond `10 ^ 310` everything is infinite and below
`10 ^ -330` everything is zero, which keeps the powers of ten small. -/
def Decimal.toFloat (d : Decimal) : Float :=
  if d.digits = 0 then 0
  else
    let point := (digitsOf d.digits).length + d.exponent
    if 310 < point then infinity
    else if point < -330 then 0
    else Float.ofScientific d.digits (d.exponent < 0) d.exponent.natAbs

/-- Splits off the digits in front. -/
def spanDigits (cs : List Char) : List Char × List Char :=
  (cs.takeWhile Char.isDigit, cs.dropWhile Char.isDigit)

/-- Splits off a sign in front and tells whether it is a minus. -/
def spanSign : List Char → Bool × List Char
  | '-' :: cs => (true, cs)
  | '+' :: cs => (false, cs)
  | cs => (false, cs)

/-- A power of ten: an optional sign and at least one digit, with nothing behind them. -/
def readExponent? (cs : List Char) : Option Int :=
  let (negative, rest) := spanSign cs
  match spanDigits rest with
  | ([], _) => none
  | (digits, []) => some (if negative then -(readDigits digits : Int) else readDigits digits)
  | (_, _ :: _) => none

/-- An unsigned number with nothing behind it.  Digits may be missing on one side of the point, but
not on both. -/
def readNumeral? (cs : List Char) : Option Numeral :=
  let (whole, rest) := spanDigits cs
  let (fraction, rest) := match rest with
    | '.' :: rest => spanDigits rest
    | _ => ([], rest)
  if whole = [] ∧ fraction = [] then none
  else match rest with
    | [] => some ⟨whole, fraction, 0⟩
    | c :: rest =>
      if c = 'e' ∨ c = 'E' then (readExponent? rest).map (⟨whole, fraction, ·⟩) else none

/-- A number, an infinity or a NaN without its sign; the names are read in any case. -/
def readMagnitude? (cs : List Char) : Option Float :=
  let name := String.ofList (cs.map Char.toLower)
  if name = "inf" ∨ name = "infinity" then some infinity
  else if name = "nan" then some notANumber
  else (readNumeral? cs).map (·.toDecimal.toFloat)

/-- Reads a score. -/
def readScore? (text : String) : Option Float :=
  let (negative, rest) := spanSign text.toList
  (readMagnitude? rest).map fun x => if negative then -x else x

end Markbook
