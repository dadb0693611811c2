import Markbook.Formula.Token

/-!
# What can be wrong with a formula

* `ParseError` — why a text has no tree.
* `FormulaError` — why a formula has no value.
* `FormulaError.message` — the wording.
-/

namespace Markbook

/-- The deepest nesting of parentheses, signs and calls. -/
def maxNesting : Nat := 256

/-- The most operations, signs and calls of one formula.  It bounds the height of the tree of a long
flat sum. -/
def maxOperators : Nat := 1024

/-- Why a text cannot be read as a formula. -/
inductive ParseError where
  /-- The nesting goes beyond `maxNesting`. -/
  | tooDeep
  /-- There are more than `maxOperators` operations, signs and calls. -/
  | tooManyOperators
  /-- A token that cannot start an operand. -/
  | unexpected (offset : Nat) (found : Token)
  /-- Another token where a closing parenthesis was due. -/
  | unclosed (offset : Nat) (found : Token)

/-- Why a formula has no value. -/
inductive FormulaError where
  | parse (cause : ParseError)
  /-- Text left over behind a complete formula. -/
  | trailing (rest : String)
  | unboundName (name : String)
  | unknownFunction (name : String)
  | circular (name : String)

/-- The wording of a cause. -/
def ParseError.message : ParseError → String
  | tooDeep => "Formula nested deeper than " ++ toString maxNesting ++ " levels"
  | tooManyOperators => "Formula has more than " ++ toString maxOperators ++ " operators"
  | unexpected offset found =>
    "Unexpected token at offset " ++ toString offset ++ ": " ++ found.describe
  | unclosed offset found =>
    "Expected ')' at offset " ++ toString offset ++ ", got " ++ found.describe

/-- The message for an error. -/
def FormulaError.message : FormulaError → String
  | parse cause => "Parse error: " ++ cause.message
  | trailing rest => "Unexpected characters after expression: '" ++ rest ++ "'"
  | unboundName name => "Unresolved variable: " ++ name
  | unknownFunction name => "Unknown function: " ++ name
  | circular name => "Circular reference detected involving " ++ name

end Markbook
