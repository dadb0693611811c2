import Markbook.Book.Basic
import Markbook.Json.Printer
import Markbook.Json.Reader

/-!
# Mark books as files

A book is kept in a JSON file with three lists: its categories, its items and its students.
Whatever has a usual value may be left out of a file, and categories and formulas that are absent
are not written.

Loading a file enters its categories, items and students one by one, so a file is held to the same
rules as anyone who fills in a book by hand.

* `Book.toJson`, `Book.save` — the value and the text of a book.
* `Book.load` — the book of a text.
-/

namespace Markbook

/-! ## Writing -/

/-- A member of an object. -/
def jsonMember (name : String) (x : Json) : Option String × Json :=
  (some name, x)

/-- A member that is left out when its text is absent. -/
def optionalMember (name : String) (content : Option String) : List (Option String × Json) :=
  (content.map fun text => jsonMember name (.ofText text)).toList

/-- The value of a category. -/
def Category.toJson (c : Category) : Json :=
  .object [jsonMember "name" (.ofText c.name), jsonMember "weight" (.ofFloat c.weight)]

/-- The value of an item. -/
def Item.toJson (i : Item) : Json :=
  .object (jsonMember "name" (.ofText i.name) :: optionalMember "category" i.category
    ++ [jsonMember "out_of" (.ofFloat i.outOf), jsonMember "weight" (.ofFloat i.weight)]
    ++ optionalMember "formula" i.formula)

/-- The value of the marks of a student. -/
def Marks.toJson (m : Marks) : Json :=
  .object (m.entries.map fun (name, x) => jsonMember name (.ofFloat x))

/-- The value of a student. -/
def Student.toJson (s : Student) : Json :=
  .object [
    jsonMember "id" (.ofText s.id),
    jsonMember "name" (.ofText s.name),
    jsonMember "scores" s.marks.toJson]

/-- The value of a book. -/
def Book.toJson (b : Book) : Json :=
  .object [
    jsonMember "categories" (.array (b.categories.map (·.toJson))),
    jsonMember "items" (.array (b.items.map (·.toJson))),
    jsonMember "students" (.array (b.students.map (·.toJson)))]

/-- The text of a book. -/
def Book.save (b : Book) : String :=
  b.toJson.print

/-! ## Reading -/

/-- A field that must be there. -/
def requiredField (read : Json → Option α) (field : Option Json) : Option α :=
  field.bind read

/-- A field with a usual value. -/
def defaultField (usual : α) (read : Json → Option α) : Option Json → Option α
  | none => some usual
  | some x => read x

/-- A field that may be absent or `null`. -/
def optionalText : Option Json → Option (Option String)
  | none => some none
  | some .null => some none
  | some x => x.text?.map some

/-- The category of a value. -/
def Category.ofJson? (x : Json) : Option Category := do
  let [name, weight] ← x.fields? ["name", "weight"] | none
  return { name := ← requiredField Json.text? name, weight := ← requiredField Json.number? weight }

/-- The item of a value. -/
def Item.ofJson? (x : Json) : Option Item := do
  let [name, category, outOf, weight, formula] ←
    x.fields? ["name", "category", "out_of", "weight", "formula"] | none
  return {
    name := ← requiredField Json.text? name
    category := ← optionalText category
    outOf := ← defaultField defaultOutOf Json.number? outOf
    weight := ← defaultField defaultWeight Json.number? weight
    formula := ← optionalText formula }

/-- The marks of a value.  Of several marks under one spelling the last counts. -/
def Marks.ofJson? (x : Json) : Option Marks := do
  let members ← x.members?
  let scores ← members.mapM fun (name, x) => x.number?.map (name, ·)
  return .ofList scores

/-- The student of a value. -/
def Student.ofJson? (x : Json) : Option Student := do
  let [id, name, scores] ← x.fields? ["id", "name", "scores"] | none
  return {
    id := ← requiredField Json.text? id
    name := ← requiredField Json.text? name
    marks := ← defaultField .empty Marks.ofJson? scores }

/-- The elements of a list. -/
def listOf (read : Json → Option α) (x : Json) : Option (List α) := do
  let xs ← x.elements?
  xs.mapM read

/-- What a file says, before any of it is checked. -/
structure Contents where
  categories : List Category
  items : List Item
  students : List Student

/-- What the value of a file says. -/
def Contents.ofJson? (x : Json) : Option Contents := do
  let [categories, items, students] ← x.fields? ["categories", "items", "students"] | none
  return {
    categories := ← defaultField [] (listOf Category.ofJson?) categories
    items := ← defaultField [] (listOf Item.ofJson?) items
    students := ← defaultField [] (listOf Student.ofJson?) students }

/-- Enters everything that a file says into an empty book: categories first, then items, then
students. -/
def Contents.toBook (c : Contents) : Except BookError Book := do
  let b ← c.categories.foldlM Book.addCategory Book.empty
  let b ← c.items.foldlM Book.addItem b
  c.students.foldlM Book.addStudent b

/-- The book of a text. -/
def Book.load (content : String) : Except BookError Book :=
  match (Json.parse? content).bind Contents.ofJson? with
  | some contents => contents.toBook
  | none => .error .malformedFile

/-! ## Equality -/

/-- Are two marks equal as numbers, under one spelling? -/
def sameMark (a b : String × Float) : Bool :=
  a.1 == b.1 && a.2 == b.2

/-- Are two lists equal, one by one? -/
def sameList (same : α → α → Bool) : List α → List α → Bool
  | [], [] => true
  | x :: xs, y :: ys => same x y && sameList same xs ys
  | _, _ => false

/-- Are two categories equal? -/
def Category.same (a b : Category) : Bool :=
  a.name == b.name && a.weight == b.weight

/-- Are two items equal? -/
def Item.same (a b : Item) : Bool :=
  a.name == b.name && a.category == b.category && a.outOf == b.outOf && a.weight == b.weight
    && a.formula == b.formula

/-- Are two students equal? -/
def Student.same (a b : Student) : Bool :=
  a.id == b.id && a.name == b.name && sameList sameMark a.marks.entries b.marks.entries

/-- Are two books equal?  Scores are compared as numbers, so a NaN differs from itself. -/
def Book.same (a b : Book) : Bool :=
  sameList Category.same a.categories b.categories && sameList Item.same a.items b.items
    && sameList Student.same a.students b.students

end Markbook
