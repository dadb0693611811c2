import Markbook.Dependency.Graph

/-!
# The order of calculation

Computed items are evaluated in an order in which every item comes after those it reads.  Items on a
cycle have no place in such an order and are listed apart.

The order is found by walking the graph from each wanted item in turn, sources first.  The walk goes
through items that are not wanted, but stops at those on a cycle.

* `Plan` — the order and the items left out of it.
* `DependencyGraph.plan` — the plan for a list of items.
-/

namespace Markbook

/-- An order of calculation, and the items that lie on a cycle. -/
structure Plan where
  order : List String
  circular : List String
  deriving DecidableEq, Repr

/-- How far a walk has come: the items it has been to, and those it has left for good. -/
structure Walk where
  seen : List String
  order : List String

namespace DependencyGraph

/-- Walks to an item and from there to all its sources.  The number bounds the length of the way to
the item; as no item on it is repeated, it never exceeds the number of readings. -/
def walk (g : DependencyGraph) (wanted circular : List String) : Nat → Walk → String → Walk
  | 0, w, _ => w
  | fuel + 1, w, item =>
    if circular.contains item || w.seen.contains item then w
    else
      let entered := { w with seen := item :: w.seen }
      let w := (g.sources item).foldl (g.walk wanted circular fuel) entered
      if wanted.contains item then { w with order := w.order ++ [item] } else w

/-- The plan for a list of items.  Items that do not depend on each other keep the order of the
list. -/
def plan (g : DependencyGraph) (items : List String) : Plan :=
  let wanted := items.map normalize
  let circular := wanted.filter g.isCircular
  let walked := wanted.foldl (g.walk wanted circular (g.readings.length + 1)) ⟨[], []⟩
  ⟨walked.order, circular⟩

end DependencyGraph

end Markbook
