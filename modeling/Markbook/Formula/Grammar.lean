import Markbook.Formula.Basic
import Markbook.Formula.Error
import Markbook.Text.LowerCase

/-!
# The grammar of formulas

What the tokens of a formula mean is fixed here without saying how they are read.

* `Level.Sign` — the signs that stand between operands.
* `Part` — the parts of a formula.
* `Derives` — which tokens make up a part, and with which trees.
* `Token.opens` — the tokens that an operand can begin with.
* `Grammatical` — the tokens of a whole formula within the bounds on its size.

The number in `Derives` bounds the nesting: an operand takes one level, so what lies in its
parentheses, behind its sign or among its arguments has one level less.
-/

namespace Markbook

/-- The signs between the operands of a level, with the operations that they stand for. -/
inductive Level.Sign : Level → Token → BinaryOp → Prop
  | add : Sign .sum .plus .add
  | subtract : Sign .sum .minus .subtract
  | multiply : Sign .product .star .multiply
  | divide : Sign .product .slash .divide

/-- The parts of a formula. -/
inductive Part where
  | expression
  | term
  | factor
  | arguments
  deriving DecidableEq, Repr

/-- The tokens of a part with its trees: one for an operand and any number for arguments. -/
inductive Derives : Part → Nat → List Token → List Formula → Prop
  | ofTerm {n ts f} : Derives .term n ts [f] → Derives .expression n ts [f]
  | sum {n ts t us op f g} : Derives .expression n ts [f] → Level.sum.Sign t op →
      Derives .term n us [g] → Derives .expression n (ts ++ t :: us) [.binary op f g]
  | ofFactor {n ts f} : Derives .factor n ts [f] → Derives .term n ts [f]
  | product {n ts t us op f g} : Derives .term n ts [f] → Level.product.Sign t op →
      Derives .factor n us [g] → Derives .term n (ts ++ t :: us) [.binary op f g]
  | plus {n ts f} : Derives .factor n ts [f] → Derives .factor (n + 1) (.plus :: ts) [f]
  | minus {n ts f} : Derives .factor n ts [f] → Derives .factor (n + 1) (.minus :: ts) [.negate f]
  | parentheses {n ts f} : Derives .expression n ts [f] →
      Derives .factor (n + 1) (.leftParen :: ts ++ [.rightParen]) [f]
  | number {n x} : Derives .factor (n + 1) [.number x] [.number x]
  | name {n m} : Derives .factor (n + 1) [.name m] [.name m]
  | word {n text} : Derives .factor (n + 1) [.word text] [.name text]
  | call {n text ts fs} : Derives .arguments n ts fs →
      Derives .factor (n + 1) (.word text :: .leftParen :: ts ++ [.rightParen])
        [.call (lowerCase text) fs]
  | noArgument {n} : Derives .arguments n [] []
  | lastArgument {n ts f} : Derives .expression n ts [f] → Derives .arguments n ts [f]
  | argument {n ts us f g gs} : Derives .expression n ts [f] → Derives .arguments n us (g :: gs) →
      Derives .arguments n (ts ++ .comma :: us) (f :: g :: gs)

/-- Can an operand begin with this token? -/
def Token.opens : Token → Bool
  | .plus | .minus | .leftParen | .number _ | .name _ | .word _ => true
  | _ => false

/-- The tokens of a whole formula: an expression within the bounds on nesting and operators. -/
def Grammatical (ts : List Token) (f : Formula) : Prop :=
  Derives .expression maxNesting ts [f] ∧ f.operators ≤ maxOperators

/-- The tokens of a text. -/
def tokens (names : List String) (text : String) : List Token :=
  (lexemes names text.toList).map (·.token)

end Markbook
