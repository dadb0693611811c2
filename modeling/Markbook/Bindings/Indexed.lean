import Mathlib.Tactic.Common
import Markbook.Bindings

/-!
# Bindings with an index

A formula looks up one name after the other, and going through all bindings for each of them would
take long.  So the entries are kept together with an index: it tells for the plain form of every
bound name where the entry of this name stands.  A name that is bound again writes over its entry
and leaves the index alone; a new name comes last and is entered into the index.

Nothing in the data keeps the two in step.  An index that is out of step leads to the score of
another name, or to a place where there is no entry, so going to an entry may fail here.

* `IndexedBindings` — the entries and the index.
* `IndexedBindings.insert`, `IndexedBindings.get?` — binding and looking up by way of the index.
* `BindingsCall` — the calls that bind names, and `inserted` what is bound after several of them.
* `IndexedBindings.replay`, `Bindings.replay` — the tables that several calls make.
-/

namespace Markbook

/-- An index leads to a place where there is no entry. -/
inductive IndexFault where
  | noEntry (position : Nat)

/-- Scores by name, with an index of the plain names. -/
structure IndexedBindings where
  entries : List Binding
  index : Std.HashMap String Nat

namespace IndexedBindings

/-- No bindings. -/
def empty : IndexedBindings :=
  ⟨[], ∅⟩

/-- The entry at a place that the index names. -/
def entryAt (t : IndexedBindings) (position : Nat) : Except IndexFault Binding :=
  match t.entries[position]? with
  | some e => .ok e
  | none => .error (.noEntry position)

/-- Binds a name, and tells the score it was bound to before. -/
def insert (t : IndexedBindings) (name : String) (score : Float) :
    Except IndexFault (Option Float × IndexedBindings) :=
  match t.index[normalize name]? with
  | some i => do
    let previous ← t.entryAt i
    return (some previous.score, { t with entries := t.entries.set i ⟨name, score⟩ })
  | none =>
    return (none, ⟨t.entries ++ [⟨name, score⟩], t.index.insert (normalize name) t.entries.length⟩)

/-- Binds a name, whatever it was bound to before. -/
def bind (t : IndexedBindings) (name : String) (score : Float) :
    Except IndexFault IndexedBindings := do
  return (← t.insert name score).2

/-- Binds several names, one after the other. -/
def extend (t : IndexedBindings) (scores : List (String × Float)) :
    Except IndexFault IndexedBindings :=
  scores.foldlM (fun t e => t.bind e.1 e.2) t

/-- The bindings made from a list of names and scores. -/
def ofList (scores : List (String × Float)) : Except IndexFault IndexedBindings :=
  empty.extend scores

/-- The score bound to a name, under any spelling. -/
def get? (t : IndexedBindings) (name : String) : Except IndexFault (Option Float) :=
  match t.index[normalize name]? with
  | some i => return some (← t.entryAt i).score
  | none => return none

/-- Is the name bound? -/
def contains (t : IndexedBindings) (name : String) : Bool :=
  t.index.contains (normalize name)

/-- How many names are bound. -/
def size (t : IndexedBindings) : Nat :=
  t.entries.length

/-- Names and scores in order. -/
def toList (t : IndexedBindings) : List (String × Float) :=
  t.entries.map fun e => (e.name, e.score)

end IndexedBindings

/-! ## Tables that come about by calls -/

/-- A call that binds names.  The last one starts anew. -/
inductive BindingsCall where
  | insert (name : String) (score : Float)
  | extend (scores : List (String × Float))
  | ofList (scores : List (String × Float))

/-- What a call leaves bound where the given names and scores were bound before. -/
def BindingsCall.inserted (bound : List (String × Float)) :
    BindingsCall → List (String × Float)
  | insert name score => bound ++ [(name, score)]
  | extend scores => bound ++ scores
  | ofList scores => scores

/-- All names and scores that several calls bind, in the order in which they are bound, from where
the table was started anew for the last time. -/
def inserted (calls : List BindingsCall) : List (String × Float) :=
  calls.foldl BindingsCall.inserted []

/-- The table after a call. -/
def IndexedBindings.apply (t : IndexedBindings) : BindingsCall → Except IndexFault IndexedBindings
  | .insert name score => t.bind name score
  | .extend scores => t.extend scores
  | .ofList scores => ofList scores

/-- The table that several calls make, one after the other. -/
def IndexedBindings.replay (calls : List BindingsCall) : Except IndexFault IndexedBindings :=
  calls.foldlM apply empty

/-- The bindings after a call. -/
def Bindings.apply (b : Bindings) : BindingsCall → Bindings
  | .insert name score => b.bind name score
  | .extend scores => b.extend scores
  | .ofList scores => ofList scores

/-- The bindings that several calls make, one after the other. -/
def Bindings.replay (calls : List BindingsCall) : Bindings :=
  calls.foldl apply empty

end Markbook
