import Markbook.Decimal.Binary

/-!
# The shortest decimal that reads back

A double stands for every real number that rounds to it.  Among the decimals in that interval we
want one with the fewest digits, and of those the one nearest to the double itself.

* `Decimal` — `digits · 10 ^ exponent`.
* `Interval` — the reals that round to a double, as naturals over one common denominator.
* `Interval.onGrid` — the best multiple of a power of ten inside the interval, if there is one.
* `shortest` — the first grid, from coarse to fine, on which there is one.

If any multiple of `10 ^ k` lies in the interval then so does one of the two neighbours of the
double on that grid, so only those two are ever tested.
-/

namespace Markbook

/-- The number `digits · 10 ^ exponent`. -/
structure Decimal where
  digits : Nat
  exponent : Int
  deriving DecidableEq, Repr

/-- Which of two equally near decimals is taken. -/
inductive Tie where
  | upward
  | toEven
  deriving DecidableEq, Repr

/-- The reals that round to a positive double, each bound being a natural over `unit`.  The ends
belong to the interval when the significand is even, as a tie between two doubles goes to that
one. -/
structure Interval where
  low : Nat
  value : Nat
  high : Nat
  unit : Nat
  closed : Bool
  deriving DecidableEq, Repr

namespace Interval

/-- The interval of `significand · 2 ^ exponent`.  Below a power of two the doubles lie twice as
dense, so there the lower end is nearer. -/
def ofBinary (significand : Nat) (exponent : Int) : Interval :=
  let dense := significand = Double.leadingBit ∧ Double.lowestExponent < exponent
  let scale := Nat.pow 2 exponent.toNat
  { low := (4 * significand - if dense then 1 else 2) * scale
    value := 4 * significand * scale
    high := (4 * significand + 2) * scale
    unit := 4 * Nat.pow 2 (-exponent).toNat
    closed := significand % 2 = 0 }

/-- The interval with every bound multiplied by `10 ^ -exponent`, so that the multiples of
`10 ^ exponent` become the integers. -/
def rescale (i : Interval) (exponent : Int) : Interval :=
  let up := Nat.pow 10 (-exponent).toNat
  { i with
    low := i.low * up, value := i.value * up, high := i.high * up,
    unit := i.unit * Nat.pow 10 exponent.toNat }

/-- Is the integer `n` in the interval? -/
def holds (i : Interval) (n : Nat) : Bool :=
  let point := n * i.unit
  if i.closed then i.low ≤ point && point ≤ i.high else i.low < point && point < i.high

/-- The integer of the interval that is nearest to the double, if the interval holds one. -/
def nearest? (i : Interval) (tie : Tie) : Option Nat :=
  let below := i.value / i.unit
  let twice := 2 * (i.value % i.unit)
  match i.holds below, i.holds (below + 1) with
  | true, true =>
    if twice < i.unit then some below
    else if i.unit < twice then some (below + 1)
    else match tie with
      | .upward => some (below + 1)
      | .toEven => some (if below % 2 = 0 then below else below + 1)
  | true, false => some below
  | false, true => some (below + 1)
  | false, false => none

/-- The multiple of `10 ^ exponent` in the interval that is nearest to the double. -/
def onGrid (i : Interval) (tie : Tie) (exponent : Int) : Option Decimal :=
  ((i.rescale exponent).nearest? tie).map (⟨·, exponent⟩)

/-- The first of `count` ever finer grids on which the interval holds a decimal. -/
def firstGrid (i : Interval) (tie : Tie) : Nat → Int → Option Decimal
  | 0, _ => none
  | count + 1, exponent =>
    match i.onGrid tie exponent with
    | some d => some d
    | none => i.firstGrid tie count (exponent - 1)

end Interval

/-- The position of the decimal point in `num / den`: the `p` with
`10 ^ (p - 1) ≤ num / den < 10 ^ p`. -/
def pointPosition (num den : Nat) : Int :=
  let whole := num / den
  if whole = 0 then
    -- `den / num` has as many digits as the first non-zero digit has places, or one more
    let places := (Nat.toDigits 10 (den / num)).length
    if den ≤ num * Nat.pow 10 (places - 1) then -((places - 1 : Nat) : Int) + 1
    else -(places : Int) + 1
  else
    (Nat.toDigits 10 whole).length

/-- Drops the zeros at the end of the digits. -/
def Decimal.trim (d : Decimal) : Nat → Decimal
  | 0 => d
  | n + 1 =>
    if d.digits % 10 = 0 ∧ d.digits ≠ 0 then
      Decimal.trim ⟨d.digits / 10, d.exponent + 1⟩ n
    else d

/-- The shortest decimal that reads back as `significand · 2 ^ exponent`.  Seventeen digits tell
any two doubles apart, so one of the seventeen grids always has one. -/
def shortest (tie : Tie) (significand : Nat) (exponent : Int) : Decimal :=
  if significand = 0 then ⟨0, 0⟩
  else
    let i := Interval.ofBinary significand exponent
    let point := pointPosition i.value i.unit
    ((i.firstGrid tie 17 (point - 1)).getD ⟨significand, exponent⟩).trim 17

end Markbook
