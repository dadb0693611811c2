import Markbook.Bindings
import Markbook.Formula.Function
import Markbook.Formula.Parser

/-!
# The value of a formula

A tree is evaluated from left to right against the bindings of one student.  A strict evaluation
fails at the first name without a score and at the first unknown function; a lenient one takes both
for zero, so it always has a value.

* `Formula.evaluate` — the value of a tree.
* `evaluateFormula` — the value of a formula as typed, whose names may stand in it bare.
* `evaluateExpression` — the value of a text without names.
-/

namespace Markbook

/-- The score of a name in a formula. -/
def Bindings.lookup (b : Bindings) (mode : Mode) (name : String) : Except FormulaError Float :=
  match b.get? name, mode with
  | some x, _ => .ok x
  | none, .strict => .error (.unboundName name)
  | none, .lenient => .ok 0

namespace Formula

mutual

/-- The value of a tree.  An unknown function is found out before its arguments are evaluated. -/
def evaluate (mode : Mode) (b : Bindings) : Formula → Except FormulaError Float
  | number x => .ok x
  | name n => b.lookup mode n
  | binary op l r => do
    let x ← l.evaluate mode b
    let y ← r.evaluate mode b
    return op.apply x y
  | negate f => do
    let x ← f.evaluate mode b
    return -x
  | call g args =>
    match Registry.standard.get? g, mode with
    | some f, _ => do
      let xs ← evaluateAll mode b args
      return f.rule.apply xs
    | none, .strict => .error (.unknownFunction g)
    | none, .lenient => .ok 0

/-- The values of several trees, from left to right. -/
def evaluateAll (mode : Mode) (b : Bindings) : List Formula → Except FormulaError (List Float)
  | [] => .ok []
  | f :: fs => do
    let x ← f.evaluate mode b
    let xs ← evaluateAll mode b fs
    return x :: xs

end

end Formula

/-- The score that stands for a formula when errors count as zero. -/
def orZero : Except FormulaError Float → Float
  | .ok x => x
  | .error _ => 0

/-- The value of a formula as an author typed it. -/
def evaluateFormula (mode : Mode) (b : Bindings) (text : String) : Except FormulaError Float := do
  let f ← Formula.read mode b.names text
  f.evaluate mode b

/-- The value of a text without names. -/
def evaluateExpression (mode : Mode) (text : String) : Except FormulaError Float := do
  let f ← Formula.parse mode text
  f.evaluate mode .empty

/-- The names that a formula reads. -/
def formulaReferences (text : String) : Except FormulaError (List String) := do
  let f ← Formula.read .strict [] text
  return f.references

end Markbook
