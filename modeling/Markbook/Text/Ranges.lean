/-!
# Classes of characters

A class of characters is given by the ranges of code points that make it up.  ASCII is left to the
functions that use a table, which keeps their value on ordinary text a matter of plain comparison.

* `Ranges` — inclusive ranges of code points.
* `Ranges.holds` — membership.
-/

namespace Markbook

/-- Inclusive ranges of code points. -/
abbrev Ranges := List (Nat × Nat)

/-- Does the character lie in one of the ranges? -/
def Ranges.holds (ranges : Ranges) (c : Char) : Bool :=
  ranges.any fun (first, last) => first ≤ c.toNat && c.toNat ≤ last

end Markbook
