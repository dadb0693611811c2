import Markbook.Report.Equations

/-!
# Books in which nothing counts as zero

A strict calculation takes nothing for zero, so it accepts a book only if there is nothing to be
taken for zero: every formula can be read, no item is on a cycle, every function is known and every
name has a score.  Whether a name has a score depends on the student, so a book without students is
not held to the last two.

* `Book.Scored` — which names have a score.
* `Book.Clean` — the books that a strict calculation accepts.
-/

namespace Markbook

namespace Book

/-- The name has a score for the student: it is that of a computed item, or of an item that takes
marks and the student has one. -/
def Scored (b : Book) (s : Student) (name : String) : Prop :=
  (∃ i ∈ b.computedItems, normalize i.name = name) ∨
    ∃ i ∈ b.scoredItems, normalize i.name = name ∧ (s.marks.get? i.name).isSome = true

/-- Nothing in the book has to be taken for zero. -/
structure Clean (b : Book) : Prop where
  readable : ∀ i ∈ b.items, ∀ text ∈ i.formula,
    ∃ f, Formula.read .strict (b.items.map (·.name)) text = .ok f
  acyclic : ∀ i ∈ b.computedItems, ¬ b.OnCycle i
  supplied : ∀ s ∈ b.students, ∀ i ∈ b.items, ∀ f, b.tree? i = some (.ok f) →
    (∀ g ∈ f.functions, g ∈ ["max", "min", "avg", "mean"]) ∧ ∀ n ∈ f.references, b.Scored s n

end Book

end Markbook
