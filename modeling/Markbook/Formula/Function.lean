import Markbook.Ordered
import Markbook.Text.LowerCase

/-!
# Functions in formulas

Functions take any number of scores, including none.  They are looked up in a registry by the
lower-case form of their names.

* `Aggregate` — what a function computes.
* `Registry` — functions by name, `Registry.standard` those that every formula can call.
-/

namespace Markbook

/-- The greater of two scores; a NaN loses against a number. -/
def greater (x y : Float) : Float :=
  if x < y || x.isNaN then y else x

/-- The lesser of two scores; a NaN loses against a number. -/
def lesser (x y : Float) : Float :=
  if y < x || x.isNaN then y else x

/-- The sum from left to right.  It starts from `-0`, the one score that adds nothing to any
other. -/
def sum (xs : List Float) : Float :=
  xs.foldl (· + ·) (-0.0)

/-- What a function computes from its arguments. -/
inductive Aggregate where
  | maximum
  | minimum
  | average
  deriving DecidableEq, Repr

/-- The value of a function.  Without arguments it is zero. -/
def Aggregate.apply : Aggregate → List Float → Float
  | _, [] => 0
  | maximum, x :: xs => xs.foldl greater x
  | minimum, x :: xs => xs.foldl lesser x
  | average, xs => sum xs / Float.ofNat xs.length

/-- A function under the name it was registered with. -/
structure NamedFunction where
  name : String
  rule : Aggregate
  deriving DecidableEq, Repr

/-- The registered functions, no two of them with the same lower-case name. -/
structure Registry where
  functions : List NamedFunction

namespace Registry

/-- Registers a function, replacing any of the same name. -/
def register (r : Registry) (f : NamedFunction) : Registry :=
  ⟨f :: r.functions.filter fun g => lowerCase g.name != lowerCase f.name⟩

/-- The function of a name, in any case. -/
def get? (r : Registry) (name : String) : Option NamedFunction :=
  r.functions.find? fun f => lowerCase f.name == lowerCase name

/-- The names of the functions in order. -/
def names (r : Registry) : List String :=
  orderedSet textBefore (r.functions.map (·.name))

/-- The functions that every formula can call.  `avg` and `mean` are the same. -/
def standard : Registry :=
  ⟨[⟨"max", .maximum⟩, ⟨"min", .minimum⟩, ⟨"avg", .average⟩, ⟨"mean", .average⟩]⟩

end Registry

end Markbook
