import Markbook.Bindings
import Markbook.Book.Error
import Markbook.Book.Marks

/-!
# Mark books

A mark book holds weighted categories, grade items in the order in which they are shown, and the
students with their marks.  An item either takes marks or is computed from a formula.

Everything enters through the functions below, and each checks what it is given, so that in every
book the names of items differ by more than white space, every category of an item exists, and
weights and maxima are in range.

* `Category`, `Item`, `Student`, `Book` — the data.
* `Book.addCategory`, `Book.addItem`, `Book.addStudent` — extend a book.
* `Book.record`, `Book.setScore` — enter marks.
* `Book.bindingsFor` — the marks of a student by item.
-/

namespace Markbook

/-- A weighted group of items. -/
structure Category where
  name : String
  weight : Float

/-- Something that is marked, or computed from other marks. -/
structure Item where
  name : String
  /-- The category the item counts towards. -/
  category : Option String
  /-- The greatest score that can be had. -/
  outOf : Float
  /-- The weight within the category; an item of weight zero does not count. -/
  weight : Float
  /-- The formula of a computed item. -/
  formula : Option String

/-- The maximum of an item that names none. -/
def defaultOutOf : Float := 100

/-- The weight of an item that names none. -/
def defaultWeight : Float := 1

/-- Is the item computed from a formula? -/
def Item.isComputed (i : Item) : Bool :=
  i.formula.isSome

/-- A score in percent of the maximum. -/
def Item.percentage (i : Item) (score : Float) : Float :=
  score / i.outOf * 100

/-- Someone on the roster. -/
structure Student where
  id : String
  name : String
  marks : Marks

/-- Categories, items and students, in order. -/
structure Book where
  categories : List Category
  items : List Item
  students : List Student

namespace Book

/-- A book with nothing in it. -/
def empty : Book :=
  ⟨[], [], []⟩

/-! ## Finding things -/

/-- The category of this name. -/
def category? (b : Book) (name : String) : Option Category :=
  b.categories.find? (·.name == name)

/-- The item of this name, under any spelling. -/
def item? (b : Book) (name : String) : Option Item :=
  b.items.find? (sameName ·.name name)

/-- The student with this id. -/
def student? (b : Book) (id : String) : Option Student :=
  b.students.find? (·.id == id)

/-- The items that are computed from a formula. -/
def computedItems (b : Book) : List Item :=
  b.items.filter (·.isComputed)

/-- The items that take marks. -/
def scoredItems (b : Book) : List Item :=
  b.items.filter (!·.isComputed)

/-! ## Extending a book -/

/-- May this be a weight? -/
def isWeight (weight : Float) : Bool :=
  weight.isFinite && !(weight < 0)

/-- May this be the maximum of an item? -/
def isOutOf (outOf : Float) : Bool :=
  outOf.isFinite && !(outOf ≤ 0)

/-- Adds a category behind the others. -/
def addCategory (b : Book) (c : Category) : Except BookError Book :=
  if (b.category? c.name).isSome then .error (.duplicateCategory c.name)
  else if !isWeight c.weight then .error (.invalidWeight c.name c.weight)
  else .ok { b with categories := b.categories ++ [c] }

/-- The category that an item names, if the book has no such category. -/
def missingCategory? (b : Book) (i : Item) : Option String :=
  i.category.filter fun name => (b.category? name).isNone

/-- Adds an item behind the others. -/
def addItem (b : Book) (i : Item) : Except BookError Book :=
  if normalize i.name = "" then .error .blankName
  else if (b.item? i.name).isSome then .error (.duplicateItem i.name)
  else match b.missingCategory? i with
    | some category => .error (.unknownCategory i.name category)
    | none =>
      if !isOutOf i.outOf then .error (.invalidOutOf i.name i.outOf)
      else if !isWeight i.weight then .error (.invalidWeight i.name i.weight)
      else .ok { b with items := b.items ++ [i] }

/-- Adds a student at the end of the roster. -/
def addStudent (b : Book) (s : Student) : Except BookError Book :=
  if (b.student? s.id).isSome then .error (.duplicateStudent s.id)
  else .ok { b with students := b.students ++ [s] }

/-! ## Entering marks -/

/-- Changes the student with this id. -/
def modifyStudent (b : Book) (id : String) (change : Student → Student) : Book :=
  { b with students := b.students.map fun s => if s.id == id then change s else s }

/-- Enters a mark under the given spelling, whether or not there is such an item.  There must be
such a student. -/
def setScore? (b : Book) (id item : String) (score : Float) : Option Book :=
  (b.student? id).map fun _ =>
    b.modifyStudent id fun s => { s with marks := s.marks.set item score }

/-- Enters a mark for an item that takes marks, under the name that the item has in the book. -/
def record (b : Book) (id item : String) (score : Float) : Except BookError Book :=
  match b.item? item with
  | none => .error (.unknownItem item)
  | some found =>
    if found.isComputed then .error (.unknownItem item)
    else match b.setScore? id found.name score with
      | none => .error (.unknownStudent id)
      | some b => .ok b

/-! ## The marks of a student -/

/-- The mark of a student for every item that takes marks and has one. -/
def scores (b : Book) (s : Student) : List (String × Float) :=
  b.scoredItems.filterMap fun i => (s.marks.get? i.name).map fun score => (i.name, score)

/-- The bindings that the formulas of a student start from. -/
def bindingsFor (b : Book) (id : String) : Except BookError Bindings :=
  match b.student? id with
  | none => .error (.unknownStudent id)
  | some s => .ok (.ofList (b.scores s))

end Book

end Markbook
