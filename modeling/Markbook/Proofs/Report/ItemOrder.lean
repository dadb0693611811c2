import Markbook.Proofs.Report.Dependence

/-!
# The order of the items does not matter

The items of a book are shown in an order, and that order reaches every stage of a calculation: the
names that the scanner knows, the plan and the bindings.  None of it reaches a grade.  The scanner
sorts its names, so every formula has the same tree, and the equations of two books with the same
formulas and marks have the same solution.

* `tree?_of_perm`, `item?_of_perm` — formulas and names do not depend on the order.
* `sameGrade_of_perm` — **neither does any grade**, nor which items are on a cycle.
-/

namespace Markbook

deriving instance DecidableEq for Item, Marks, Student

namespace Book

variable {b b' : Book} {s : Student}

lemma item?_of_perm (h : b.Consistent) (h' : b'.Consistent) (hperm : b.items.Perm b'.items)
    (n : String) : b.item? n = b'.item? n := by
  refine Option.ext fun i => ?_
  rw [h.item?_eq_some, h'.item?_eq_some, hperm.mem_iff]

/-- A formula has the same tree, as the scanner sorts the names it knows. -/
lemma tree?_of_perm (hperm : b.items.Perm b'.items) : b.tree? = b'.tree? := by
  have hnames : punctuatedNames (b.items.map (·.name)) = punctuatedNames (b'.items.map (·.name)) :=
    punctuatedNames_congr fun n => ((hperm.map _).map _).mem_iff
  have hread : Formula.read .lenient (b.items.map (·.name)) =
      Formula.read .lenient (b'.items.map (·.name)) := by
    funext text
    rw [Formula.read, Formula.read, hnames]
  funext i
  rw [tree?, tree?, hread]

/-- A student has the same formulas and marks in both books. -/
lemma agreeOn_of_perm (h : b.Consistent) (h' : b'.Consistent) (hperm : b.items.Perm b'.items) :
    AgreeOn b b' s s fun _ => True where
  closed _ _ _ _ := trivial
  trees n _ := by rw [treeNamed?, treeNamed?, item?_of_perm h h' hperm, tree?_of_perm hperm]
  marks n _ _ := by rw [h.get?_scores, h'.get?_scores, item?_of_perm h h' hperm]

/-- **The order of the items does not matter.**  Take two books that can come about and whose items
are the same in whatever order.  For a student of both, with the same marks, the lenient
calculations give every item the same score and percentage, and list the same items as lying on a
cycle. -/
theorem sameGrade_of_perm (hb : b.Reachable) (hb' : b'.Reachable)
    (hperm : b.items.Perm b'.items) (hs : s ∈ b.students) (hs' : s ∈ b'.students) :
    ∃ r r', b.calculateStudent .lenient s.id = .ok r ∧
      b'.calculateStudent .lenient s.id = .ok r' ∧
      (∀ i ∈ b.items, r.SameGrade r' i.name) ∧ r.circular.Perm r'.circular := by
  have h := hb.consistent
  have h' := hb'.consistent
  have hab : AgreeOn b b' s s fun _ => True := agreeOn_of_perm h h' hperm
  refine ⟨_, _, h.calculateStudent_eq hs, h'.calculateStudent_eq hs', fun i hi =>
    hab.sameGrade h h' hi (hperm.mem_iff.mp hi) trivial, ?_⟩
  have hcycle : ∀ i, b.OnCycle i ↔ b'.OnCycle i := fun i => hab.transGen_iff h h' trivial
  have hcircular : (b.computedItems.filter fun i => b.OnCycle i) =
      b.computedItems.filter fun i => b'.OnCycle i := by
    simp only [hcycle]
  change b.lenientSchedule.circular.Perm b'.lenientSchedule.circular
  rw [h.circular_schedule, h'.circular_schedule, hcircular]
  exact ((hperm.filter _).filter _).map _

/-- The items of a book in which one name is the beginning of another and one item is on a cycle. -/
def labItems : List Item := [
  ⟨"Lab-1", none, 100, 1, none⟩,
  ⟨"Lab-1-Rerun", none, 50, 1, none⟩,
  ⟨"Loop", none, 100, 1, some "Loop + Lab-1"⟩,
  ⟨"Best", none, 100, 1, some "max(Lab-1, Lab-1-Rerun) + Loop"⟩]

/-- Fills a book with these items and adds one student with marks. -/
def labChanges (items : List Item) : List Change :=
  items.map .addItem ++ [
    .addStudent ⟨"s", "Sam", .ofList [("Lab-1", 40), ("Lab-1-Rerun", 45)]⟩]

/-- A book and the book with the items the other way round give the same grades. -/
theorem sameGrade_reverse :
    let b := empty.replay (labChanges labItems)
    let b' := empty.replay (labChanges labItems.reverse)
    b.Reachable ∧ b'.Reachable ∧ b.items ≠ b'.items ∧ b.items.Perm b'.items ∧
      ∃ s ∈ b.students, s ∈ b'.students ∧ s.id = "s" ∧
        ∃ r r', b.calculateStudent .lenient s.id = .ok r ∧
          b'.calculateStudent .lenient s.id = .ok r' ∧
          (∀ i ∈ b.items, r.SameGrade r' i.name) ∧ r.circular.Perm r'.circular := by
  intro b b'
  have hb : b.Reachable := ⟨labChanges labItems, rfl⟩
  have hb' : b'.Reachable := ⟨labChanges labItems.reverse, rfl⟩
  have hne : b.items ≠ b'.items := by decide +kernel
  have hperm : b.items.Perm b'.items := by decide +kernel
  have hfound : ∃ s ∈ b.students, s ∈ b'.students ∧ s.id = "s" := by decide +kernel
  obtain ⟨s, hs, hs', hid⟩ := hfound
  exact ⟨hb, hb', hne, hperm, s, hs, hs', hid, sameGrade_of_perm hb hb' hperm hs hs'⟩

end Book

end Markbook
