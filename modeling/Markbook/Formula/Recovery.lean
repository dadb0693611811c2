import Markbook.Formula.Grammar
import Markbook.Formula.Parser

/-!
# What a lenient reading puts in

A lenient reading has a tree for nearly every text, grammatical or not.  It is the tree of a
grammatical formula that the text falls short of: an operand that is missing is put in as a zero and
a closing parenthesis that is missing is put in as well.  Nothing else is changed, but what follows
a complete formula is left aside.

* `Mended` — the tokens that are there, and the tokens with what was put in.
* `Recovery` — how a lenient reading of a text comes by its tree.
-/

namespace Markbook

/-- With what a reading puts in, the tokens `us` in front of `rest` are the last tokens.  A zero
goes where an operand is due and the next token cannot begin one, a closing parenthesis goes where
one is due and the next token is another. -/
inductive Mended (mode : Mode) (rest : List Token) : List Token → List Token → Prop
  | done : Mended mode rest [] []
  | keep {t us vs} : Mended mode rest us vs → Mended mode rest (t :: us) (t :: vs)
  | operand {us vs} : mode = .lenient → ((us ++ rest).headD .eof).opens = false →
      Mended mode rest us vs → Mended mode rest us (.number 0 :: vs)
  | closing {us vs} : mode = .lenient → (us ++ rest).headD .eof ≠ .rightParen →
      Mended mode rest us vs → Mended mode rest us (.rightParen :: vs)

/-- How a lenient reading comes by its tree `f`: the parser takes the tokens `used` and stops before
`rest`, and `whole` is the grammatical formula that it takes them for. -/
structure Recovery (names : List String) (text : String) (f : Formula)
    (used rest whole : List Token) : Prop where
  /-- Nothing is dropped or put in another place. -/
  split : tokens names text = used ++ rest
  /-- The parser ends where the rest begins. -/
  stops : ∃ ls k, ls.map (·.token) = rest ∧
    Parser.formula .lenient text.utf8ByteSize ⟨lexemes names text.toList, 0⟩ = .ok (f, ⟨ls, k⟩)
  mended : Mended .lenient rest used whole
  grammatical : Grammatical whole f

end Markbook
