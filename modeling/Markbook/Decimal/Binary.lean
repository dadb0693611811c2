/-!
# Scores as exact dyadic numbers

Every score, weight and maximum in a mark book is a double.  To print one we need its exact value,
and a finite double is an integer times a power of two.

* `Double` — a double taken apart: not a number, infinite, or `± significand · 2 ^ exponent`.
* `Double.ofFloat` — reads the parts out of the bit pattern.
* `roundDiv` — a quotient of two naturals rounded to the nearest integer, a half going to the even
  neighbour.
-/

namespace Markbook

/-- A double taken apart.  The sign of a NaN carries no information, so it is not kept. -/
inductive Double where
  | nan
  | infinite (negative : Bool)
  | finite (negative : Bool) (significand : Nat) (exponent : Int)
  deriving DecidableEq, Repr

namespace Double

/-- The exponent that goes with the smallest doubles, the subnormal ones. -/
def lowestExponent : Int := -1074

/-- The leading bit of a full-length significand, which the bit pattern leaves out. -/
def leadingBit : Nat := Nat.pow 2 52

/-- Takes a double apart by its bit pattern: one sign bit, eleven exponent bits, fifty-two
significand bits. -/
def ofFloat (x : Float) : Double :=
  let bits := x.toBits.toNat
  let negative := bits / Nat.pow 2 63 == 1
  let biased := bits / Nat.pow 2 52 % Nat.pow 2 11
  let fraction := bits % Nat.pow 2 52
  if biased = 2047 then
    if fraction = 0 then infinite negative else nan
  else if biased = 0 then
    finite negative fraction lowestExponent
  else
    finite negative (leadingBit + fraction) (lowestExponent + (biased - 1 : Nat))

end Double

/-- `num / den` rounded to the nearest integer, a half going to the even neighbour. -/
def roundDiv (num den : Nat) : Nat :=
  let below := num / den
  let twice := 2 * (num % den)
  if twice < den then below
  else if den < twice then below + 1
  else if below % 2 = 0 then below
  else below + 1

end Markbook
