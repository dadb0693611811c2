import Markbook.Report.Calculation

/-!
# What a report has to satisfy

A report is right when its scores solve the equations of the book: every computed score is the value
of its formula where the names stand for the marks of the student and for the computed scores of
this very report.  Nothing is said here about an order of calculation.

Equations of items that read each other in a circle need not have a solution, so these items count
as zero, and so do those whose formulas cannot be read.

* `Book.Reads`, `Book.OnCycle` — which items read which names, and the items that read themselves.
* `Book.shown` — what the names stand for.
* `Book.Solves` — the equation of an item.
-/

namespace Markbook

namespace Book

/-- The tree of the formula of an item, or the reason why there is none.  The name of any item of
the book may stand in the formula. -/
def tree? (b : Book) (i : Item) : Option (Except FormulaError Formula) :=
  i.formula.map (Formula.read .lenient (b.items.map (·.name)))

/-- The item with the plain name `reader` reads the name `source`. -/
def Reads (b : Book) (reader source : String) : Prop :=
  ∃ i ∈ b.items, normalize i.name = reader ∧
    ∃ f, b.tree? i = some (.ok f) ∧ source ∈ f.references

/-- The item reads itself, directly or through others. -/
def OnCycle (b : Book) (i : Item) : Prop :=
  Relation.TransGen b.Reads (normalize i.name) (normalize i.name)

/-- The scores that a report shows for computed items. -/
def computedScores (b : Book) (r : StudentReport) : List (String × Float) :=
  b.computedItems.filterMap fun i => (r.score? i.name).map (i.name, ·)

/-- What the names in formulas stand for according to a report: the marks of the student, and for
every computed item the score that the report shows. -/
def shown (b : Book) (s : Student) (r : StudentReport) : Bindings :=
  .ofList (b.scores s ++ b.computedScores r)

/-- The result of an item solves its equation, where the names in formulas stand for what is
`known`. -/
structure Solves (b : Book) (s : Student) (known : Bindings) (i : Item) (r : ItemResult) :
    Prop where
  name : r.name = i.name
  scored : i.isComputed = false → r.score = s.marks.get? i.name
  circular : b.OnCycle i → r.score = some 0
  unread : ∀ e, b.tree? i = some (.error e) → r.score = some 0
  computed : ∀ f, b.tree? i = some (.ok f) → ¬ b.OnCycle i →
    ∃ x, f.evaluate .lenient known = .ok x ∧ r.score = some x

end Book

end Markbook
