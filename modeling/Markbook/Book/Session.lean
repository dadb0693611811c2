import Markbook.Book.History

/-!
# Working on a book in place

The functions of a book answer with a new book or with the reason why there is none.  Whoever works
on a book does not see it that way: there is one book, and every call looks at it, changes it and
answers.  Nothing undoes the changes of a call that fails in the end, so it has to look before it
changes anything.

A file is no exception to this although it is entered piece by piece: it fills a book of its own.

* `Edit` — what a call does to the book, and its answer.
* `Change.edit` — the calls.
* `Book.session` — the book after several calls.
-/

namespace Markbook

/-- A call on a book that is changed in place.  The book is left behind whatever the answer is. -/
abbrev Edit := ExceptT BookError (StateM Book)

namespace Edit

/-- Fails where something is wrong. -/
def refuseIf (wrong : Bool) (e : BookError) : Edit Unit :=
  if wrong then throw e else pure ()

def addCategory (c : Category) : Edit Unit := do
  refuseIf ((← get).category? c.name).isSome (.duplicateCategory c.name)
  refuseIf (!Book.isWeight c.weight) (.invalidWeight c.name c.weight)
  modify fun b => { b with categories := b.categories ++ [c] }

/-- Fails where an item names a category that the book does not have. -/
def checkCategory (i : Item) : Edit Unit :=
  match i.category with
  | none => pure ()
  | some name => do refuseIf ((← get).category? name).isNone (.unknownCategory i.name name)

def addItem (i : Item) : Edit Unit := do
  refuseIf (normalize i.name == "") .blankName
  refuseIf ((← get).item? i.name).isSome (.duplicateItem i.name)
  checkCategory i
  refuseIf (!Book.isOutOf i.outOf) (.invalidOutOf i.name i.outOf)
  refuseIf (!Book.isWeight i.weight) (.invalidWeight i.name i.weight)
  modify fun b => { b with items := b.items ++ [i] }

def addStudent (s : Student) : Edit Unit := do
  refuseIf ((← get).student? s.id).isSome (.duplicateStudent s.id)
  modify fun b => { b with students := b.students ++ [s] }

/-- Enters a mark for a student who is on the roster. -/
def enterMark (id item : String) (score : Float) : Edit Unit :=
  modify fun b => b.modifyStudent id fun s => { s with marks := s.marks.set item score }

def setScore (id item : String) (score : Float) : Edit Unit := do
  match (← get).student? id with
  | none => pure ()
  | some _ => enterMark id item score

def record (id item : String) (score : Float) : Edit Unit := do
  match (← get).item? item with
  | none => throw (.unknownItem item)
  | some found =>
    refuseIf found.isComputed (.unknownItem item)
    refuseIf ((← get).student? id).isNone (.unknownStudent id)
    enterMark id found.name score

/-- Enters everything that a file says, one thing after the other.  What has been entered before
something is refused stays. -/
def fill (c : Contents) : Edit Unit := do
  c.categories.forM addCategory
  c.items.forM addItem
  c.students.forM addStudent

/-- Replaces the book by that of a file, which is filled apart from it. -/
def load (content : String) : Edit Unit :=
  match (Json.parse? content).bind Contents.ofJson? with
  | none => throw .malformedFile
  | some contents =>
    match (fill contents).run Book.empty with
    | (.ok (), filled) => set filled
    | (.error e, _) => throw e

end Edit

/-- What a change does to a book in place. -/
def Change.edit : Change → Edit Unit
  | addCategory c => .addCategory c
  | addItem i => .addItem i
  | addStudent s => .addStudent s
  | record id item score => .record id item score
  | setScore id item score => .setScore id item score
  | load content => .load content

/-- The book after several calls, whatever they answered. -/
def Book.session (b : Book) (changes : List Change) : Book :=
  changes.foldl (fun b c => (c.edit.run b).2) b

end Markbook
