import Markbook.Book.Basic

/-!
# Reports

A report shows one student's score for every item, an average for every category and one overall
grade, all but the scores in percent.  What could not be computed for want of marks is absent.

* `StudentReport` — the report of one student.
* `ClassReport` — the reports of the roster, with a `Tally` of what was done.
-/

namespace Markbook

/-- The score of one item. -/
structure ItemResult where
  name : String
  /-- The mark, or the computed score; absent where the student has no mark. -/
  score : Option Float
  percentage : Option Float

/-- The average of one category; absent where no item counts. -/
structure CategoryResult where
  name : String
  average : Option Float

/-- The grades of one student. -/
structure StudentReport where
  id : String
  name : String
  items : List ItemResult
  categories : List CategoryResult
  overall : Option Float
  /-- The computed items that count as zero because they lie on a cycle. -/
  circular : List String

namespace StudentReport

/-- The result of an item, under any spelling of its name. -/
def item? (r : StudentReport) (name : String) : Option ItemResult :=
  r.items.find? (sameName ·.name name)

/-- The score of an item. -/
def score? (r : StudentReport) (name : String) : Option Float :=
  (r.item? name).bind (·.score)

/-- The percentage of an item. -/
def percentage? (r : StudentReport) (name : String) : Option Float :=
  (r.item? name).bind (·.percentage)

/-- The average of a category. -/
def average? (r : StudentReport) (category : String) : Option Float :=
  (r.categories.find? (·.name == category)).bind (·.average)

/-- Do two reports show the same score and the same percentage for an item? -/
def SameGrade (r r' : StudentReport) (name : String) : Prop :=
  r.score? name = r'.score? name ∧ r.percentage? name = r'.percentage? name

end StudentReport

/-- What a calculation did. -/
structure Tally where
  students : Nat
  /-- Evaluations of formulas, those that failed included. -/
  evaluated : Nat
  /-- Evaluations that failed and count as zero. -/
  zeroed : Nat
  /-- Computed items on a cycle. -/
  circular : Nat
  deriving DecidableEq, Repr

/-- Adds what was done for further students.  The items on a cycle are those of the book, so they
are not counted again. -/
def Tally.merge (t more : Tally) : Tally :=
  { t with
    students := t.students + more.students
    evaluated := t.evaluated + more.evaluated
    zeroed := t.zeroed + more.zeroed }

/-- The reports of a whole roster. -/
structure ClassReport where
  students : List StudentReport
  tally : Tally

end Markbook
