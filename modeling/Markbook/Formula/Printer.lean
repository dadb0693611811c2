import Markbook.Decimal.Layout
import Markbook.Formula.Basic

/-!
# Writing formulas

A tree is written with every name in brackets and every operation in parentheses, so that the text
reads back as the same tree whatever the names are.
-/

namespace Markbook.Formula

mutual

/-- The characters of a tree. -/
def chars : Formula → List Char
  | number x => (printScore x).toList
  | name n => '[' :: n.toList ++ [']']
  | binary op l r => '(' :: l.chars ++ op.symbol :: r.chars ++ [')']
  | negate x => '-' :: x.chars
  | call f xs => f.toList ++ '(' :: charsAll xs ++ [')']

/-- The characters of several trees with commas between them. -/
def charsAll : List Formula → List Char
  | [] => []
  | x :: xs => x.chars ++ charsBehind xs

/-- The characters of several trees with a comma before each. -/
def charsBehind : List Formula → List Char
  | [] => []
  | x :: xs => ',' :: x.chars ++ charsBehind xs

end

/-- The text of a tree. -/
def print (f : Formula) : String :=
  String.ofList f.chars

end Markbook.Formula
