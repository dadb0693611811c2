import Markbook.Decimal.Shortest

/-!
# Numbers as they are written

Between a number and its text stands the way it is written: which digits come before the point,
which behind it, and the power of ten that follows.  Printers choose one of the many ways to write a
number; readers accept many and keep what they found.

* `Numeral` — an unsigned number as written.
* `Numeral.chars` — its text.
* `Numeral.toDecimal` — its value.
-/

namespace Markbook

/-- An unsigned number as written.  An empty fraction stands for a number without a point, and the
exponent zero for one without an exponent. -/
structure Numeral where
  whole : List Char
  fraction : List Char
  exponent : Int
  deriving DecidableEq, Repr

/-- The decimal digits of a natural number, most significant first. -/
def digitsOf (n : Nat) : List Char :=
  Nat.toDigits 10 n

/-- The number written by a list of decimal digits. -/
def readDigits (digits : List Char) : Nat :=
  digits.foldl (fun n c => 10 * n + (c.toNat - '0'.toNat)) 0

namespace Numeral

/-- The text of the exponent; whether a positive one carries a sign is left open. -/
def exponentChars (plusSign : Bool) (exponent : Int) : List Char :=
  if exponent = 0 then []
  else
    let sign := if exponent < 0 then ['-'] else if plusSign then ['+'] else []
    'e' :: sign ++ digitsOf exponent.natAbs

/-- The text of a numeral. -/
def chars (plusSign : Bool) (n : Numeral) : List Char :=
  let fraction := if n.fraction = [] then [] else '.' :: n.fraction
  n.whole ++ fraction ++ exponentChars plusSign n.exponent

/-- The value of a numeral. -/
def toDecimal (n : Numeral) : Decimal :=
  ⟨readDigits (n.whole ++ n.fraction), n.exponent - n.fraction.length⟩

end Numeral

end Markbook
