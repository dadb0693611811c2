import Markbook.Dependency.Plan
import Markbook.Formula.Evaluation
import Markbook.Report.Average

/-!
# Calculating a report

The formulas of a book are read once and put in an order in which every item comes after those it
reads.  For each student they are then evaluated in that order, each value being bound to the name
of its item before the next formula is evaluated.

A lenient calculation always succeeds: items on a cycle, and formulas that cannot be read, count as
zero.  A strict one fails at the first problem.

* `Schedule` — the formulas of a book in order of calculation.
* `Book.schedule` — reads the formulas.
* `Book.calculateStudent`, `Book.calculateAll` — the reports.
-/

namespace Markbook

/-- A computed item with the tree of its formula, or with the reason why it has none. -/
structure ComputedItem where
  name : String
  tree : Except FormulaError Formula

/-- The computed items of a book, and the order in which they are calculated. -/
structure Schedule where
  items : List ComputedItem
  plan : Plan

/-- A problem in the formula of an item. -/
def formulaError (item : String) (e : FormulaError) : BookError :=
  .formula (item ++ ": " ++ e.message)

namespace Schedule

/-- The computed item with this plain name. -/
def item? (s : Schedule) (name : String) : Option ComputedItem :=
  s.items.find? (normalize ·.name == name)

/-- The names of the items on a cycle, as the book has them. -/
def circular (s : Schedule) : List String :=
  s.plan.circular.filterMap fun name => (s.item? name).map (·.name)

/-- The items in the order in which they are calculated. -/
def ordered (s : Schedule) : List ComputedItem :=
  s.plan.order.filterMap s.item?

end Schedule

/-! ## Reading the formulas -/

namespace Book

/-- The computed items with their formulas read.  The name of any item may stand in a formula. -/
def computed (b : Book) (mode : Mode) : List ComputedItem :=
  let names := b.items.map (·.name)
  b.items.filterMap fun i => i.formula.map fun text => ⟨i.name, Formula.read mode names text⟩

/-- What the computed items read. -/
def graph (items : List ComputedItem) : DependencyGraph :=
  items.foldl
    (fun g i => match i.tree with
      | .ok f => g.addFormula i.name f
      | .error _ => g)
    .empty

/-- The first problem that a strict calculation finds before it looks at any student: a formula that
cannot be read, or else an item on a cycle. -/
def firstProblem? (s : Schedule) : Option BookError :=
  let unread := s.items.findSome? fun i => match i.tree with
    | .ok _ => none
    | .error e => some (formulaError i.name e)
  match unread with
  | some e => some e
  | none => s.plan.circular.head?.map fun name => .formula (FormulaError.circular name).message

/-- Reads the formulas of a book and finds the order of calculation. -/
def schedule (b : Book) (mode : Mode) : Except BookError Schedule :=
  let items := b.computed mode
  let s : Schedule := ⟨items, (graph items).plan (items.map (·.name))⟩
  match mode, firstProblem? s with
  | .strict, some e => .error e
  | _, _ => .ok s

end Book

/-! ## Evaluating the formulas -/

/-- The value of a computed item. -/
def ComputedItem.evaluate (i : ComputedItem) (mode : Mode) (b : Bindings) :
    Except FormulaError Float := do
  let f ← i.tree
  f.evaluate mode b

/-- The scores known so far, and how many formulas were evaluated and how many of them failed on the
way. -/
structure Progress where
  bindings : Bindings
  evaluated : Nat
  zeroed : Nat

namespace Schedule

/-- Calculates one more item. -/
def step (mode : Mode) (p : Progress) (i : ComputedItem) : Except BookError Progress :=
  match i.evaluate mode p.bindings, mode with
  | .ok x, _ => .ok ⟨p.bindings.bind i.name x, p.evaluated + 1, p.zeroed⟩
  | .error e, .strict => .error (formulaError i.name e)
  | .error _, .lenient => .ok ⟨p.bindings.bind i.name 0, p.evaluated + 1, p.zeroed + 1⟩

/-- The bindings before the first formula is evaluated: items on a cycle are zero. -/
def start (s : Schedule) (marks : Bindings) : Bindings :=
  marks.extend (s.circular.map fun name => (name, 0))

/-- Calculates every item, starting from the marks of a student. -/
def run (s : Schedule) (mode : Mode) (marks : Bindings) : Except BookError Progress :=
  s.ordered.foldlM (step mode) ⟨s.start marks, 0, 0⟩

end Schedule

/-! ## Reports -/

namespace Book

/-- The result of an item for a student, given the scores of the computed items. -/
def itemResult (s : Student) (computed : Bindings) (i : Item) : ItemResult :=
  let score := if i.isComputed then computed.get? i.name else s.marks.get? i.name
  ⟨i.name, score, score.map i.percentage⟩

/-- The report of a student once all items are calculated. -/
def report (b : Book) (schedule : Schedule) (s : Student) (computed : Bindings) : StudentReport :=
  let items := b.items.map (itemResult s computed)
  let (categories, overall) := b.averages items
  ⟨s.id, s.name, items, categories, overall, schedule.circular⟩

/-- The report of a student, and what was done for it.  The marks are those on the roster under the
id of the student. -/
def reportStudent (b : Book) (schedule : Schedule) (mode : Mode) (s : Student) :
    Except BookError (StudentReport × Tally) := do
  let marks ← b.bindingsFor s.id
  let p ← schedule.run mode marks
  return (b.report schedule s p.bindings, ⟨1, p.evaluated, p.zeroed, 0⟩)

/-- Calculates the report of the student with this id. -/
def calculateStudent (b : Book) (mode : Mode) (id : String) : Except BookError StudentReport :=
  match b.student? id with
  | none => .error (.unknownStudent id)
  | some s => do
    let schedule ← b.schedule mode
    let (report, _) ← b.reportStudent schedule mode s
    return report

/-- Calculates the reports of the whole roster.  No student depends on another, so it makes no
difference to the reports whether this is done one by one or at once. -/
def calculateAll (b : Book) (mode : Mode) : Except BookError ClassReport := do
  let schedule ← b.schedule mode
  let reports ← b.students.mapM (b.reportStudent schedule mode)
  let start : Tally := ⟨0, 0, 0, schedule.plan.circular.length⟩
  return ⟨reports.map (·.1), reports.foldl (fun t r => t.merge r.2) start⟩

end Book

end Markbook
