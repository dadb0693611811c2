import Markbook.Book.File

/-!
# How a book comes about

A book starts empty and changes by the operations below, any of which may be refused.  What holds of
every book is shown by following its history.

* `Change` — the operations, and `Change.entersMark` those that leave everything but marks alone.
* `Book.apply` — carries one out.
* `Book.replay` — carries out several; a change that is refused leaves the book as it is.
-/

namespace Markbook

/-- An operation on a book. -/
inductive Change where
  | addCategory (c : Category)
  | addItem (i : Item)
  | addStudent (s : Student)
  | record (id item : String) (score : Float)
  | setScore (id item : String) (score : Float)
  | load (content : String)

/-- Does the operation enter a mark and nothing else? -/
def Change.entersMark : Change → Bool
  | record .. => true
  | setScore .. => true
  | _ => false

namespace Book

/-- Carries out a change.  Entering a mark for an unknown student changes nothing. -/
def apply (b : Book) : Change → Except BookError Book
  | .addCategory c => b.addCategory c
  | .addItem i => b.addItem i
  | .addStudent s => b.addStudent s
  | .record id item score => b.record id item score
  | .setScore id item score => .ok ((b.setScore? id item score).getD b)
  | .load content => load content

/-- Carries out a change unless it is refused. -/
def applyOrKeep (b : Book) (c : Change) : Book :=
  match b.apply c with
  | .ok b => b
  | .error _ => b

/-- Carries out several changes, one after the other. -/
def replay (b : Book) (changes : List Change) : Book :=
  changes.foldl applyOrKeep b

/-- A book that came about from the empty one. -/
def Reachable (b : Book) : Prop :=
  ∃ changes, empty.replay changes = b

end Book

end Markbook
