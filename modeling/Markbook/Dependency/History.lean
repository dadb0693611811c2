import Markbook.Dependency.Graph

/-!
# How a graph comes about

A graph starts empty and grows by single readings and by whole formulas.  What holds of every graph
is shown by following its history.

* `Link` — the two ways to extend a graph, and `Link.readings` what each of them adds.
* `DependencyGraph.build` — the graph that several extensions make.
-/

namespace Markbook

/-- An extension of a graph. -/
inductive Link where
  /-- One item reads another. -/
  | dependency (source reader : String)
  /-- An item reads everything that its formula reads. -/
  | formula (reader : String) (tree : Formula)

/-- The readings that an extension stands for, under plain names. -/
def Link.readings : Link → List Reading
  | dependency source reader => [⟨normalize reader, normalize source⟩]
  | formula reader tree =>
    tree.references.map fun source => ⟨normalize reader, normalize source⟩

namespace DependencyGraph

/-- Extends a graph. -/
def extend (g : DependencyGraph) : Link → DependencyGraph
  | .dependency source reader => g.add source reader
  | .formula reader tree => g.addFormula reader tree

/-- The graph that several extensions make, one after the other. -/
def build (links : List Link) : DependencyGraph :=
  links.foldl extend empty

end DependencyGraph

end Markbook
