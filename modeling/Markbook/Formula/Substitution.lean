import Markbook.Decimal.Layout
import Markbook.Formula.Evaluation
import Markbook.Text.Word

/-!
# Writing scores into a formula

Another way to a value is to write every score into the text of the formula in place of its name and
to evaluate what is left.  It also shows an author where the numbers come from.

Names are taken one after the other, the longest first, so that `Test` is not found in `Test1`.  For
each, the bracketed form is replaced wherever it occurs and the bare form wherever it stands on its
own.

* `replaceWhere` — replaces every occurrence of a given length, from the left, without overlaps.
* `substitute` — the formula with all scores written in.
* `evaluateSubstituted` — its value.
-/

namespace Markbook

/-- Replaces the places where `occurs` holds by `text`, from the left and without overlaps; an
occurrence is `length` characters long.  The first `within` characters belong to an occurrence that
has been replaced already, and `before` is the character in front. -/
def replaceWhere (occurs : Option Char → List Char → Bool) (length : Nat) (text : List Char) :
    Nat → Option Char → List Char → List Char
  | _, _, [] => []
  | within + 1, _, c :: cs => replaceWhere occurs length text within (some c) cs
  | 0, before, c :: cs =>
    if occurs before (c :: cs) then
      text ++ replaceWhere occurs length text (length - 1) (some c) cs
    else c :: replaceWhere occurs length text 0 (some c) cs

/-- Replaces a text wherever it occurs. -/
def replaceAll (old new cs : List Char) : List Char :=
  replaceWhere (fun _ cs => old.isPrefixOf cs) old.length new 0 none cs

/-- Does a name stand on its own at the start of `cs`?  Where it starts or ends with a name
character, that must be the edge of a word. -/
def standsAsWord (name : List Char) (before : Option Char) (cs : List Char) : Bool :=
  name.isPrefixOf cs
    && (!name.head?.any isNameChar || isWordEdge before name.head?)
    && (!name.getLast?.any isNameChar || isWordEdge name.getLast? (cs.drop name.length).head?)

/-- Replaces a bare name wherever it stands on its own. -/
def replaceWord (name new cs : List Char) : List Char :=
  replaceWhere (standsAsWord name) name.length new 0 none cs

/-- Writes one score into a formula.  A name made of digits and points is only replaced in brackets,
as bare it would be one of the formula's own numbers.

The bare name is looked for with a pattern, and where a pattern is refused the bare form is left as
it stands, with a warning.  This way out has no counterpart here: every character of the name stands
for itself in the pattern, so that only one too large to be compiled could be refused. -/
def substituteOne (cs : List Char) (b : Binding) : List Char :=
  let name := b.name.toList
  let score := (printScore b.score).toList
  let cs := replaceAll ('[' :: name ++ [']']) score cs
  if name.all isNumberChar then cs else replaceWord name score cs

/-- The plain names in the order in which their scores are written in.  A blank name is found
nowhere. -/
def substitutionOrder (b : Bindings) : List String :=
  orderedSet longerFirst ((b.names.map normalize).filter (· != ""))

/-- The scores to be written in, in order, each under its plain name. -/
def substitutions (b : Bindings) : List Binding :=
  (substitutionOrder b).filterMap fun name => (b.get? name).map (⟨name, ·⟩)

/-- The formula with the scores written in. -/
def substitute (b : Bindings) (text : String) : String :=
  String.ofList ((substitutions b).foldl substituteOne (normalize text).toList)

/-- The value of the formula with the scores written in; errors count as zero. -/
def evaluateSubstituted (b : Bindings) (text : String) : Float :=
  orZero (evaluateExpression .lenient (substitute b text))

end Markbook
