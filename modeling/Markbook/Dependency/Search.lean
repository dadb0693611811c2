import Markbook.Dependency.Graph

/-!
# Looking for a way back

Whether an item is on a cycle can be found out with less than all that it depends on: it is enough
to look for a way from the item back to itself.  The search goes to a source of the item, from there
to a source of the source and so on, and comes back for the next source when it gets no further.  It
is over as soon as it meets the item it started from.

No item is entered twice, whether it has been left or is still on the way.  The sources of an item
are a set, and they may be gone through in any order.

* `search` — goes depth first until it meets a target.
* `DependencyGraph.comesBack` — is there a way from an item back to itself?
-/

namespace Markbook

/-- Goes through the items of `todo`, and behind each through its sources in the order of `next`.
There is no answer if the target is met; otherwise the answer is what has been entered, `seen`
having been entered before.  The number bounds the steps. -/
def search (next : String → List String) (target : String) :
    Nat → List String → List String → Option (List String)
  | 0, seen, _ => some seen
  | _ + 1, seen, [] => some seen
  | fuel + 1, seen, item :: todo =>
    if item = target then none
    else if seen.contains item then search next target fuel seen todo
    else do
      let seen ← search next target fuel (item :: seen) (next item)
      search next target fuel seen todo

namespace DependencyGraph

/-- Is there a way from the item back to itself, if the sources of every item are gone through in
the order of `next`? -/
def comesBack (g : DependencyGraph) (next : String → List String) (item : String) : Bool :=
  let start := normalize item
  (search next start (2 * g.readings.length) [] (next start)).isNone

end DependencyGraph

end Markbook
