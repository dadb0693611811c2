import Markbook.Name

/-!
# Bindings of names to scores

A formula is evaluated against the scores of one student.  The bindings keep the order in which
names were first bound, and the spelling under which each was bound last.

* `Bindings` — the table.
* `Bindings.insert` — binds a name, replacing the score of an equal name in place.
* `Bindings.get?` — the score bound to a name, under any spelling.
-/

namespace Markbook

/-- A score under the name it was bound with. -/
structure Binding where
  name : String
  score : Float

/-- Scores by name, in the order in which the names were first bound. -/
structure Bindings where
  entries : List Binding

namespace Bindings

/-- No bindings. -/
def empty : Bindings :=
  ⟨[]⟩

/-- Binds a name among the given entries, and tells the score it was bound to before. -/
def insertEntry (name : String) (score : Float) : List Binding → Option Float × List Binding
  | [] => (none, [⟨name, score⟩])
  | b :: rest =>
    if sameName b.name name then (some b.score, ⟨name, score⟩ :: rest)
    else
      let (previous, rest) := insertEntry name score rest
      (previous, b :: rest)

/-- Binds a name, and tells the score it was bound to before.  An equal name keeps its place but
takes the new spelling. -/
def insert (b : Bindings) (name : String) (score : Float) : Option Float × Bindings :=
  let (previous, entries) := insertEntry name score b.entries
  (previous, ⟨entries⟩)

/-- Binds a name, whatever it was bound to before. -/
def bind (b : Bindings) (name : String) (score : Float) : Bindings :=
  (b.insert name score).2

/-- Binds several names, one after the other. -/
def extend (b : Bindings) (scores : List (String × Float)) : Bindings :=
  scores.foldl (fun b (name, score) => b.bind name score) b

/-- The bindings made from a list of names and scores. -/
def ofList (scores : List (String × Float)) : Bindings :=
  empty.extend scores

/-- The score bound to a name, under any spelling. -/
def get? (b : Bindings) (name : String) : Option Float :=
  (b.entries.find? (sameName ·.name name)).map (·.score)

/-- Is the name bound? -/
def contains (b : Bindings) (name : String) : Bool :=
  b.entries.any (sameName ·.name name)

/-- How many names are bound. -/
def size (b : Bindings) : Nat :=
  b.entries.length

/-- The names as they were last bound, in the order in which they were first bound. -/
def names (b : Bindings) : List String :=
  b.entries.map (·.name)

/-- Names and scores in order. -/
def toList (b : Bindings) : List (String × Float) :=
  b.entries.map fun e => (e.name, e.score)

end Bindings

end Markbook
