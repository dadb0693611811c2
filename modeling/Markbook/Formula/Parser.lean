import Markbook.Formula.Basic
import Markbook.Formula.Error
import Markbook.Text.LowerCase

/-!
# Reading formulas

```text
expression := term (('+' | '-') term)*
term       := factor (('*' | '/') factor)*
factor     := '+' factor | '-' factor | '(' expression ')' | number | name
            | word | word '(' [expression (',' expression)*] ')'
```

A strict reading follows the grammar.  A lenient one makes the best of what is there: an operand
that is missing counts as zero, a closing parenthesis may be missing, and whatever follows a
complete formula is left aside.

Both readings bound the nesting and the number of operators.  The bound on the nesting is also what
the recursion runs on: `Parser.factor` takes the number of levels that are left, and every way back
to it goes one level down.

* `Mode` — strict or lenient.
* `Parser.expression`, `Parser.term`, `Parser.factor` — the grammar.
* `Formula.parse` — reads a text as it stands, `Formula.read` one as an author typed it.
-/

namespace Markbook

/-- What becomes of mistakes in a formula: they are errors, or they count as zero. -/
inductive Mode where
  | lenient
  | strict
  deriving DecidableEq, Repr

/-- The operator that a token is at a level, if it is one. -/
def Level.op? : Level → Token → Option BinaryOp
  | sum, .plus => some .add
  | sum, .minus => some .subtract
  | product, .star => some .multiply
  | product, .slash => some .divide
  | _, _ => none

/-- Where a parser stands: the tokens that are left, and how many operators there were so far. -/
structure Cursor where
  rest : List Lexeme
  operators : Nat

/-- A parser moves the cursor or fails. -/
abbrev Parser := StateT Cursor (Except ParseError)

namespace Parser

/-- The token at the cursor. -/
def current : Parser Token := do
  match (← get).rest with
  | [] => return .eof
  | l :: _ => return l.token

/-- Moves on to the next token. -/
def advance : Parser Unit :=
  modify fun c => { c with rest := c.rest.tail }

/-- How many bytes stand before the token at the cursor, in a text of `size` bytes. -/
def offset (size : Nat) : Parser Nat := do
  match (← get).rest with
  | [] => return size
  | l :: _ => return l.offset

/-- Counts an operator before its node is built. -/
def countOperator : Parser Unit := do
  if (← get).operators < maxOperators then
    modify fun c => { c with operators := c.operators + 1 }
  else throw .tooManyOperators

/-! ## Chains of operators -/

/-- Goes on with a chain whose value so far is `left`.  The number bounds the operators that can
still follow; each takes a token, so the number of tokens left will do. -/
def chainFrom (op? : Token → Option BinaryOp) (operand : Parser Formula) :
    Nat → Formula → Parser Formula
  | 0, left => pure left
  | n + 1, left => do
    match op? (← current) with
    | none => return left
    | some op =>
      countOperator
      advance
      let right ← operand
      chainFrom op? operand n (.binary op left right)

/-- One or more operands with operators between them, grouped from the left. -/
def chain (op? : Token → Option BinaryOp) (operand : Parser Formula) : Parser Formula := do
  let left ← operand
  chainFrom op? operand (← get).rest.length left

/-- Factors multiplied and divided. -/
def term (factor : Parser Formula) : Parser Formula :=
  chain Level.product.op? factor

/-- Terms added and subtracted. -/
def expression (factor : Parser Formula) : Parser Formula :=
  chain Level.sum.op? (term factor)

/-! ## Parentheses and calls -/

/-- Expects a closing parenthesis. -/
def close (mode : Mode) (size : Nat) : Parser Unit := do
  match ← current with
  | .rightParen => advance
  | found =>
    match mode with
    | .lenient => return ()
    | .strict => throw (.unclosed (← offset size) found)

/-- The arguments behind the first.  The number bounds them; each takes a comma. -/
def moreArguments (argument : Parser Formula) : Nat → Parser (List Formula)
  | 0 => pure []
  | n + 1 => do
    match ← current with
    | .comma =>
      advance
      let first ← argument
      return first :: (← moreArguments argument n)
    | _ => return []

/-- The arguments of a call, up to its closing parenthesis. -/
def arguments (argument : Parser Formula) : Parser (List Formula) := do
  match ← current with
  | .rightParen => return []
  | _ =>
    let first ← argument
    return first :: (← moreArguments argument (← get).rest.length)

/-! ## Operands -/

/-- An operand, given how to read one that lies one level deeper. -/
def operand (mode : Mode) (size : Nat) (deeper : Parser Formula) : Parser Formula := do
  match ← current with
  | .plus =>
    advance
    deeper
  | .minus =>
    countOperator
    advance
    return .negate (← deeper)
  | .leftParen =>
    advance
    let inner ← expression deeper
    close mode size
    return inner
  | .number x =>
    advance
    return .number x
  | .name n =>
    advance
    return .name n
  | .word text =>
    advance
    match ← current with
    | .leftParen =>
      countOperator
      advance
      let args ← arguments (expression deeper)
      close mode size
      return .call (lowerCase text) args
    | _ => return .name text
  | found =>
    match mode with
    | .lenient => return .number 0
    | .strict => throw (.unexpected (← offset size) found)

/-- An operand with `room` levels of nesting left. -/
def factor (mode : Mode) (size : Nat) : Nat → Parser Formula
  | 0 => throw .tooDeep
  | room + 1 => operand mode size (factor mode size room)

/-- A whole formula. -/
def formula (mode : Mode) (size : Nat) : Parser Formula :=
  expression (factor mode size maxNesting)

end Parser

/-! ## Whole texts -/

namespace Formula

/-- Reads a text as it stands, the scanner knowing the given names. -/
def parseWith (mode : Mode) (names : List String) (text : String) : Except FormulaError Formula :=
  let cs := text.toList
  match Parser.formula mode text.utf8ByteSize ⟨lexemes names cs, 0⟩ with
  | .error cause => .error (.parse cause)
  | .ok (f, c) =>
    match mode, c.rest with
    | .strict, l :: _ => .error (.trailing (String.ofList l.suffix))
    | _, _ => .ok f

/-- Reads a text as it stands. -/
def parse (mode : Mode) (text : String) : Except FormulaError Formula :=
  parseWith mode [] text

/-- Reads a formula as an author typed it.  White space means nothing in it, and any of the names
may stand in it bare. -/
def read (mode : Mode) (names : List String) (text : String) : Except FormulaError Formula :=
  parseWith mode (punctuatedNames names) (normalize text)

end Formula

end Markbook
