/-!
# Formulas

A computed grade item carries a formula over the names of other items: numbers, names, the four
operations, a sign and calls of functions such as `max`.

* `BinaryOp`, `Level` — the operations, and the levels of precedence between them.
* `Formula` — the tree of a formula.
* `Formula.same` — equality of trees, literals being compared as numbers.
* `Formula.references` — the names a formula reads, in the order of their first occurrence.
* `Formula.operators`, `Formula.height` — the measures by which the size of a formula is bounded.
-/

namespace Markbook

/-- The operations between two operands. -/
inductive BinaryOp where
  | add
  | subtract
  | multiply
  | divide
  deriving DecidableEq, Repr

/-- The levels of precedence between operands. -/
inductive Level where
  | sum
  | product
  deriving DecidableEq

/-- The operation on scores.  Division by zero gives an infinity or NaN, it never fails. -/
def BinaryOp.apply : BinaryOp → Float → Float → Float
  | add, x, y => x + y
  | subtract, x, y => x - y
  | multiply, x, y => x * y
  | divide, x, y => x / y

/-- The sign of an operation. -/
def BinaryOp.symbol : BinaryOp → Char
  | add => '+'
  | subtract => '-'
  | multiply => '*'
  | divide => '/'

/-- The tree of a formula.  A sign `+` and parentheses leave no trace in it. -/
inductive Formula where
  | number (value : Float)
  | name (name : String)
  | binary (op : BinaryOp) (left right : Formula)
  | negate (operand : Formula)
  | call (function : String) (arguments : List Formula)

namespace Formula

/-! ## Equality

Two literals are equal when they are the same number, so the two zeros are equal.
-/

mutual

/-- Are two trees equal? -/
def same : Formula → Formula → Bool
  | number x, number y => x == y
  | name a, name b => a == b
  | binary op l r, binary op' l' r' => op == op' && l.same l' && r.same r'
  | negate x, negate y => x.same y
  | call f xs, call g ys => f == g && sameAll xs ys
  | _, _ => false

/-- Are two lists of trees equal, one by one? -/
def sameAll : List Formula → List Formula → Bool
  | [], [] => true
  | x :: xs, y :: ys => x.same y && sameAll xs ys
  | _, _ => false

end

/-! ## What a formula reads -/

mutual

/-- Every occurrence of a name, from left to right. -/
def occurrences : Formula → List String
  | number _ => []
  | name n => [n]
  | binary _ l r => l.occurrences ++ r.occurrences
  | negate x => x.occurrences
  | call _ xs => occurrencesAll xs

/-- Every occurrence of a name in a list of formulas. -/
def occurrencesAll : List Formula → List String
  | [] => []
  | x :: xs => x.occurrences ++ occurrencesAll xs

end

/-- The names a formula reads, each once, in the order of their first occurrence. -/
def references (f : Formula) : List String :=
  f.occurrences.eraseDups

mutual

/-- The functions a formula calls, from left to right. -/
def functions : Formula → List String
  | number _ => []
  | name _ => []
  | binary _ l r => l.functions ++ r.functions
  | negate x => x.functions
  | call g xs => g :: functionsAll xs

/-- The functions that a list of formulas calls. -/
def functionsAll : List Formula → List String
  | [] => []
  | x :: xs => x.functions ++ functionsAll xs

end

mutual

/-- The numbers in a formula, from left to right. -/
def literals : Formula → List Float
  | number x => [x]
  | name _ => []
  | binary _ l r => l.literals ++ r.literals
  | negate x => x.literals
  | call _ xs => literalsAll xs

/-- The numbers in a list of formulas. -/
def literalsAll : List Formula → List Float
  | [] => []
  | x :: xs => x.literals ++ literalsAll xs

end

/-! ## Size -/

mutual

/-- How many operations, signs and calls a formula has. -/
def operators : Formula → Nat
  | number _ => 0
  | name _ => 0
  | binary _ l r => l.operators + r.operators + 1
  | negate x => x.operators + 1
  | call _ xs => operatorsAll xs + 1

/-- How many operations, signs and calls a list of formulas has. -/
def operatorsAll : List Formula → Nat
  | [] => 0
  | x :: xs => x.operators + operatorsAll xs

end

mutual

/-- The number of nodes on the longest path from the root to a leaf. -/
def height : Formula → Nat
  | number _ => 1
  | name _ => 1
  | binary _ l r => max l.height r.height + 1
  | negate x => x.height + 1
  | call _ xs => heightAll xs + 1

/-- The height of the highest of several formulas. -/
def heightAll : List Formula → Nat
  | [] => 0
  | x :: xs => max x.height (heightAll xs)

end

end Formula

end Markbook
