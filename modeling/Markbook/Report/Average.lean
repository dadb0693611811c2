import Markbook.Report.Basic

/-!
# Averages

The average of a category is the weighted mean of the percentages of its items, and the overall
grade is the weighted mean of the averages.  Where a book has no categories, its items form one
group.

Whatever has no weight or no finite percentage does not count.

* `weightedMean` — the mean of values with weights.
* `Book.averages` — the categories and the overall grade.
-/

namespace Markbook

/-- The weighted mean of pairs of a weight and a value, if any weight is positive. -/
def weightedMean (values : List (Float × Float)) : Option Float :=
  let counted := values.filter fun (weight, _) => 0 < weight
  let (total, weights) := counted.foldl
    (fun (total, weights) (weight, value) => (total + weight * value, weights + weight)) (0.0, 0.0)
  if 0 < weights then some (total / weights) else none

namespace Book

/-- The items with a finite percentage. -/
def counted (b : Book) (results : List ItemResult) : List (Item × Float) :=
  (b.items.zip results).filterMap fun (i, r) =>
    (r.percentage.filter (·.isFinite)).map fun p => (i, p)

/-- The average of one category over the items that count. -/
def categoryAverage (counted : List (Item × Float)) (c : Category) : Option Float :=
  weightedMean
    ((counted.filter fun (i, _) => i.category == some c.name).map fun (i, p) => (i.weight, p))

/-- The averages of the categories and the overall grade. -/
def averages (b : Book) (results : List ItemResult) : List CategoryResult × Option Float :=
  let counted := b.counted results
  if b.categories.isEmpty then ([], weightedMean (counted.map fun (i, p) => (i.weight, p)))
  else
    let averages := b.categories.map fun c => (c, categoryAverage counted c)
    (averages.map fun (c, average) => ⟨c.name, average⟩,
      weightedMean (averages.filterMap fun (c, average) => average.map fun a => (c.weight, a)))

end Book

end Markbook
