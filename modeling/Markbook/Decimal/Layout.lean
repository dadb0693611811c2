import Markbook.Decimal.Numeral

/-!
# Writing scores

The digits of a score are settled by `shortest`; what is left is where to put the point, whether to
use an exponent and how a whole number ends.  Those choices differ between the places a score is
written, so they are one record.

* `Layout` — the choices of one place.
* `Layout.print` — the text of a score under a layout.
* `printScore` — scores in messages and results: never an exponent, no point on a whole number.
* `printFixed` — a fixed number of places, as in the columns of a report.
-/

namespace Markbook

/-- The choices left open once the digits of a score are known. -/
structure Layout where
  /-- Which of two equally near decimals is written. -/
  tie : Tie
  /-- Is a number with its decimal point at this position written without an exponent? -/
  positional : Int → Bool
  /-- Does a whole number end in `.0`? -/
  pointZero : Bool
  /-- Does a positive exponent carry a `+`? -/
  plusSign : Bool

namespace Layout

/-- Digits with the decimal point after the first `point` of them, zeros filling the places that
the digits do not reach. -/
def placePoint (pointZero : Bool) (digits : List Char) (point : Int) : Numeral :=
  if point ≤ 0 then ⟨['0'], List.replicate (-point).toNat '0' ++ digits, 0⟩
  else
    let whole := digits ++ List.replicate (point.toNat - digits.length) '0'
    let fraction := digits.drop point.toNat
    ⟨whole.take point.toNat, if fraction = [] ∧ pointZero then ['0'] else fraction, 0⟩

/-- How a decimal is written under a layout. -/
def arrange (l : Layout) (d : Decimal) : Numeral :=
  let digits := digitsOf d.digits
  let point := digits.length + d.exponent
  if d.digits = 0 ∨ l.positional point then placePoint l.pointZero digits point
  else ⟨digits.take 1, digits.drop 1, point - 1⟩

/-- How the number `significand · 2 ^ exponent` is written under a layout. -/
def numeral (l : Layout) (significand : Nat) (exponent : Int) : Numeral :=
  l.arrange (shortest l.tie significand exponent)

/-- The text of a score under a layout.  A NaN is written without a sign. -/
def print (l : Layout) (x : Float) : String :=
  match Double.ofFloat x with
  | .nan => "NaN"
  | .infinite negative => if negative then "-inf" else "inf"
  | .finite negative significand exponent =>
    let text := (l.numeral significand exponent).chars l.plusSign
    String.ofList (if negative then '-' :: text else text)

/-- Scores in results and messages: every digit is written out and a whole number has no point. -/
def plain : Layout :=
  { tie := .upward, positional := fun _ => true, pointZero := false, plusSign := false }

end Layout

/-- The text of a score in results and messages. -/
def printScore (x : Float) : String :=
  Layout.plain.print x

/-- The value `significand · 2 ^ exponent` in units of `10 ^ -places`, a half going to the even
neighbour. -/
def roundToPlaces (places significand : Nat) (exponent : Int) : Nat :=
  roundDiv (significand * Nat.pow 2 exponent.toNat * Nat.pow 10 places)
    (Nat.pow 2 (-exponent).toNat)

/-- A number of units of `10 ^ -places`, with all its places behind the point. -/
def fixedNumeral (places units : Nat) : Numeral :=
  let digits := digitsOf units
  let padded := List.replicate (places + 1 - digits.length) '0' ++ digits
  ⟨padded.take (padded.length - places), padded.drop (padded.length - places), 0⟩

/-- The text of a score with exactly `places` digits behind the point, rounded from its exact
value.  The sign stays even where every digit is rounded away. -/
def printFixed (places : Nat) (x : Float) : String :=
  match Double.ofFloat x with
  | .nan => "NaN"
  | .infinite negative => if negative then "-inf" else "inf"
  | .finite negative significand exponent =>
    let text := (fixedNumeral places (roundToPlaces places significand exponent)).chars false
    String.ofList (if negative then '-' :: text else text)

end Markbook
