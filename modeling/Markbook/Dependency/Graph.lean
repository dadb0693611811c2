import Markbook.Formula.Basic
import Markbook.Name
import Markbook.Ordered

/-!
# Which items read which

A formula reads other items, and those may be computed from formulas of their own.  The graph has an
edge from every item to each item that its formula reads, all under their plain names.

* `Reading` — one edge.
* `DependencyGraph.add`, `DependencyGraph.addFormula` — add edges.
* `DependencyGraph.precedents`, `DependencyGraph.dependents` — the neighbours of an item.
* `DependencyGraph.Reads`, `DependencyGraph.Depends` — reading, directly or through others.
* `DependencyGraph.isCircular` — does an item depend on itself?
-/

namespace Markbook

/-- The item `reader` reads the item `source`. -/
structure Reading where
  reader : String
  source : String
  deriving DecidableEq, Repr

/-- The readings between items, each once. -/
structure DependencyGraph where
  readings : List Reading

namespace DependencyGraph

/-- A graph without readings. -/
def empty : DependencyGraph :=
  ⟨[]⟩

/-- Adds one reading. -/
def add (g : DependencyGraph) (source reader : String) : DependencyGraph :=
  ⟨g.readings.insert ⟨normalize reader, normalize source⟩⟩

/-- Adds everything that the formula of an item reads. -/
def addFormula (g : DependencyGraph) (reader : String) (f : Formula) : DependencyGraph :=
  f.references.foldl (fun g source => g.add source reader) g

/-- The items that the item with this plain name reads, in order. -/
def sources (g : DependencyGraph) (reader : String) : List String :=
  orderedSet textBefore ((g.readings.filter (·.reader == reader)).map (·.source))

/-- The items that an item reads, in order. -/
def precedents (g : DependencyGraph) (item : String) : List String :=
  g.sources (normalize item)

/-- The items that read an item, in order. -/
def dependents (g : DependencyGraph) (item : String) : List String :=
  orderedSet textBefore
    ((g.readings.filter (·.source == normalize item)).map (·.reader))

/-! ## Cycles -/

/-- The item `reader` reads the item `source`, both under their plain names. -/
def Reads (g : DependencyGraph) (reader source : String) : Prop :=
  ⟨reader, source⟩ ∈ g.readings

/-- The item `reader` reads the item `source`, directly or through others. -/
def Depends (g : DependencyGraph) : String → String → Prop :=
  Relation.TransGen g.Reads

/-!
The items that can be reached are collected one by one.  Each is followed once, so the list of those
still to follow grows by no more than the number of readings in all; that bounds the search.
-/

/-- Collects what can be reached from the items of `todo`, `seen` being collected already. -/
def collect (g : DependencyGraph) : Nat → List String → List String → List String
  | 0, seen, _ => seen
  | _ + 1, seen, [] => seen
  | fuel + 1, seen, item :: todo =>
    if seen.contains item then g.collect fuel seen todo
    else g.collect fuel (item :: seen) (g.sources item ++ todo)

/-- Everything that the item with this plain name reads, directly or through others. -/
def reachable (g : DependencyGraph) (reader : String) : List String :=
  g.collect (2 * g.readings.length + 1) [] (g.sources reader)

/-- Does the item read itself, directly or through others? -/
def isCircular (g : DependencyGraph) (item : String) : Bool :=
  (g.reachable (normalize item)).contains (normalize item)

end DependencyGraph

end Markbook
