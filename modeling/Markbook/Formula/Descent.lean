import Markbook.Formula.Parser
import Markbook.Formula.Scanner

/-!
# Reading a formula in place

A parser that works on a scanner asks it for one token after the other and never sees the text.  Its
two counters are kept along with the scanner: how many operands it is in, and how many operators it
has met.

It descends into a part of the formula whenever a token calls for it, and it repeats a step as long
as there is another operator or another comma.  Every call of one of these functions by another is a
round.  Where an operand is missing, a lenient parser makes up a zero and takes no token at all.

* `Scan.chain`, `Scan.behind` — operands of a level with operators between them.
* `Scan.factor`, `Scan.primary` — an operand, with its depth counted and without.
* `Scan.formula` — a whole text.
-/

namespace Markbook

namespace Scan

/-- The token in hand. -/
def current : Scan Token := do
  return (← get).token

/-- Stops because the text is no formula. -/
def refuse {α : Type} (cause : ParseError) : Scan α :=
  throw (.refused (.parse cause))

/-- Counts an operator before its node is built. -/
def countOperator : Scan Unit := do
  modify Scanner.count
  if maxOperators < (← get).operators then refuse .tooManyOperators

variable (mode : Mode) (text : String) (names : List String)

/-- Expects a closing parenthesis. -/
def close (n : Nat) : Scan Unit := do
  match ← current with
  | .rightParen => advance text names n
  | found =>
    match mode with
    | .lenient => return ()
    | .strict => refuse (.unclosed (← get).start found)

mutual

/-- Operands of a level with operators between them. -/
def chain : Level → Nat → Scan Formula
  | _, 0 => unfinished
  | level, n + 1 => do behind level (← operand level n) n

/-- Goes on with a chain whose value so far is `left`. -/
def behind : Level → Formula → Nat → Scan Formula
  | _, _, 0 => unfinished
  | level, left, n + 1 => do
    match level.op? (← current) with
    | none => return left
    | some op =>
      countOperator
      advance text names n
      behind level (.binary op left (← operand level n)) n

/-- An operand of a level. -/
def operand : Level → Nat → Scan Formula
  | _, 0 => unfinished
  | .sum, n + 1 => chain .product n
  | .product, n + 1 => factor n

/-- An operand of a product, one level deeper.  The level is left again whatever becomes of the
operand. -/
def factor : Nat → Scan Formula
  | 0 => unfinished
  | n + 1 => show StateT Scanner Option (Except Halt Formula) from do
    modify Scanner.enter
    if maxNesting < (← get).depth then return .error (.refused (.parse .tooDeep))
    else
      let result ← (primary n).run
      modify Scanner.leave
      return result

/-- An operand of a product, whatever its depth. -/
def primary : Nat → Scan Formula
  | 0 => unfinished
  | n + 1 => do
    match ← current with
    | .plus =>
      advance text names n
      factor n
    | .minus =>
      countOperator
      advance text names n
      return .negate (← factor n)
    | .leftParen =>
      advance text names n
      let inner ← chain .sum n
      close mode text names n
      return inner
    | .number x =>
      advance text names n
      return .number x
    | .name m =>
      advance text names n
      return .name m
    | .word function =>
      advance text names n
      match ← current with
      | .leftParen => call function n
      | _ => return .name function
    | found =>
      match mode with
      | .lenient => return .number 0
      | .strict => refuse (.unexpected (← get).start found)

/-- The call of a function, from its opening parenthesis on. -/
def call : String → Nat → Scan Formula
  | _, 0 => unfinished
  | function, n + 1 => do
    countOperator
    advance text names n
    let args ← arguments n
    close mode text names n
    return .call (lowerCase function) args

/-- The arguments of a call, up to its closing parenthesis. -/
def arguments : Nat → Scan (List Formula)
  | 0 => unfinished
  | n + 1 => do
    match ← current with
    | .rightParen => return []
    | _ =>
      let first ← chain .sum n
      return first :: (← moreArguments n)

/-- The arguments behind the first. -/
def moreArguments : Nat → Scan (List Formula)
  | 0 => unfinished
  | n + 1 => do
    match ← current with
    | .comma =>
      advance text names n
      let first ← chain .sum n
      return first :: (← moreArguments n)
    | _ => return []

end

/-- A whole text.  What is left over behind a formula is refused, or left aside. -/
def formula (n : Nat) : Scan Formula := do
  advance text names n
  let f ← chain mode text names .sum n
  match ← current with
  | .eof => return f
  | _ =>
    let left ← slice text (← get).start text.utf8ByteSize
    match mode with
    | .lenient => return f
    | .strict => throw (.refused (.trailing left))

end Scan

end Markbook
