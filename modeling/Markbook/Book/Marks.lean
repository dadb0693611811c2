import Markbook.Name
import Markbook.Ordered

/-!
# The marks of a student

Marks are kept under the spelling they were entered with, in the order of the spellings.  A mark is
looked for under the exact spelling first and under any other spelling of the name after that.

* `Marks` — scores by spelling, ordered by construction.
* `Marks.set` — enters a mark.
* `Marks.get?` — finds the mark of an item.
-/

namespace Markbook

/-- Scores by the spelling of the item they belong to, in the order of the spellings.  No spelling
occurs twice. -/
structure Marks where
  entries : List (String × Float)
  ordered : entries.Pairwise fun a b => textBefore a.1 b.1 = true

namespace Marks

/-- No marks. -/
def empty : Marks :=
  ⟨[], .nil⟩

/-- Enters a mark among ordered entries. -/
def setEntry (item : String) (score : Float) : List (String × Float) → List (String × Float)
  | [] => [(item, score)]
  | (other, x) :: rest =>
    if item = other then (item, score) :: rest
    else if textBefore item other then (item, score) :: (other, x) :: rest
    else (other, x) :: setEntry item score rest

theorem mem_setEntry {item : String} {score : Float} {e : String × Float} :
    ∀ {entries : List (String × Float)}, e ∈ setEntry item score entries →
      e = (item, score) ∨ e ∈ entries
  | [], h => Or.inl (List.mem_singleton.mp h)
  | (other, x) :: rest, h => by
    rw [setEntry] at h
    split at h
    · exact (List.mem_cons.mp h).imp_right (List.mem_cons_of_mem _)
    · split at h
      · exact List.mem_cons.mp h
      · rcases List.mem_cons.mp h with rfl | h
        · exact Or.inr List.mem_cons_self
        · exact (mem_setEntry h).imp_right (List.mem_cons_of_mem _)

/-- Entering a mark keeps the order. -/
theorem ordered_setEntry {item : String} {score : Float} : ∀ {entries : List (String × Float)},
    entries.Pairwise (fun a b => textBefore a.1 b.1 = true) →
      (setEntry item score entries).Pairwise fun a b => textBefore a.1 b.1 = true
  | [], _ => List.pairwise_singleton _ _
  | (other, x) :: rest, h => by
    obtain ⟨hfirst, hrest⟩ := List.pairwise_cons.mp h
    rw [setEntry]
    split
    · next heq => exact List.pairwise_cons.mpr ⟨heq ▸ hfirst, hrest⟩
    · next hne =>
      split
      · next hbefore =>
        refine List.pairwise_cons.mpr ⟨fun e he => ?_, h⟩
        rcases List.mem_cons.mp he with rfl | he
        · exact hbefore
        · exact textBefore_trans hbefore (hfirst e he)
      · next hbefore =>
        refine List.pairwise_cons.mpr ⟨fun e he => ?_, ordered_setEntry hrest⟩
        rcases mem_setEntry he with rfl | he
        · exact textBefore_of_ne hne hbefore
        · exact hfirst e he

/-- Enters a mark; one under the same spelling is replaced. -/
def set (m : Marks) (item : String) (score : Float) : Marks :=
  ⟨setEntry item score m.entries, ordered_setEntry m.ordered⟩

/-- Enters several marks, one after the other. -/
def ofList (scores : List (String × Float)) : Marks :=
  scores.foldl (fun m (item, score) => m.set item score) empty

/-- The mark under exactly this spelling. -/
def spelled? (m : Marks) (item : String) : Option Float :=
  (m.entries.find? (·.1 == item)).map (·.2)

/-- The mark of an item: that under the exact spelling, or else the first under another spelling of
the name. -/
def get? (m : Marks) (item : String) : Option Float :=
  match m.spelled? item with
  | some score => some score
  | none => (m.entries.find? (sameName ·.1 item)).map (·.2)

end Marks

end Markbook
