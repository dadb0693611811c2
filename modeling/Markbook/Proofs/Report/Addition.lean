import Markbook.Proofs.Formula.Mention
import Markbook.Proofs.Report.Dependence

/-!
# An unrelated item changes no grade

A new item reaches into a calculation in two ways.  Its name is one more that the scanner knows, so
other formulas might be cut into other tokens; and its formula adds readings to the graph, so there
might be new ways from one item to another.

If no formula of the book mentions the name, neither happens.  Every formula keeps its tree, and no
tree reads the new item, so no way between other items leads through it.  What the new item itself
reads does not matter: it may read any item of the book, or itself.

* `tree?_addItem` — formulas keep their trees.
* `agreeOn_addItem` — the two books agree on all names but the new one.
* `sameGrade_addItem` — **no grade changes**, and no item gets on a cycle but the new one.
-/

namespace Markbook

namespace Book

variable {b b' : Book} {s : Student} {x : Item} {n : String}

lemma items_addItem (hadd : b.addItem x = .ok b') : b'.items = b.items ++ [x] := by
  obtain ⟨_, _, _, _, _, rfl⟩ := addItem_eq_ok.mp hadd
  rfl

lemma students_addItem (hadd : b.addItem x = .ok b') : b'.students = b.students := by
  obtain ⟨_, _, _, _, _, rfl⟩ := addItem_eq_ok.mp hadd
  rfl

/-- The new item has a name of its own. -/
lemma normalize_ne_of_addItem (hadd : b.addItem x = .ok b') {i : Item} (hi : i ∈ b.items) :
    normalize i.name ≠ normalize x.name := by
  obtain ⟨_, hnew, _⟩ := addItem_eq_ok.mp hadd
  exact fun heq => hnew (List.mem_map.mpr ⟨i, hi, heq⟩)

lemma item?_addItem (hadd : b.addItem x = .ok b') (hn : normalize n ≠ normalize x.name) :
    b'.item? n = b.item? n := by
  have hmiss : sameName x.name n = false := by
    rw [Bool.eq_false_iff, Ne, sameName_iff]
    exact hn.symm
  rw [Book.item?, Book.item?, items_addItem hadd, List.find?_append, List.find?_singleton, hmiss]
  exact Option.or_none

section

variable (hadd : b.addItem x = .ok b')
  (hfar : ∀ i ∈ b.computedItems, ∀ text ∈ i.formula, ¬ Mentions text x.name)

include hfar in
/-- What a formula of the book mentions is not the new name. -/
lemma normalize_ne_of_mentions {i : Item} (hi : i ∈ b.items) {text : String}
    (htext : i.formula = some text) (hn : Mentions text n) : normalize n ≠ normalize x.name := by
  have hcomputed : i.isComputed = true := by rw [Item.isComputed, htext, Option.isSome_some]
  intro heq
  refine hfar i (List.mem_filter.mpr ⟨hi, hcomputed⟩) text htext ?_
  rwa [Mentions, heq] at hn

include hadd hfar

/-- Formulas keep their trees, as the new name stands in none of them. -/
lemma tree?_addItem {i : Item} (hi : i ∈ b.items) : b'.tree? i = b.tree? i := by
  rw [tree?, tree?, items_addItem hadd]
  cases htext : i.formula with
  | none => rw [Option.map_none, Option.map_none]
  | some text =>
      refine congrArg some (Formula.read_congr fun n hn => ?_)
      have hne : n ≠ normalize x.name := by
        rintro rfl
        exact normalize_ne_of_mentions hfar hi htext hn (normalize_normalize _)
      simp [hne]

/-- A student has the same formulas and marks in both books under all names but the new one. -/
lemma agreeOn_addItem (h : b.Consistent) (h' : b'.Consistent) :
    AgreeOn b b' s s fun n => normalize n ≠ normalize x.name where
  closed m n _ hread := by
    obtain ⟨i, hi, _, f, htree, hn⟩ := hread
    obtain ⟨text, htext, hread⟩ := Option.map_eq_some_iff.mp htree
    exact normalize_ne_of_mentions hfar hi htext (Formula.mentions_of_mem_references hread hn)
  trees n hn := by
    rw [treeNamed?, treeNamed?, item?_addItem hadd hn]
    cases hitem : b.item? n with
    | none => rw [Option.bind_none, Option.bind_none]
    | some i => exact (tree?_addItem hadd hfar (h.item?_eq_some.mp hitem).1).symm
  marks n hn _ := by rw [h.get?_scores, h'.get?_scores, item?_addItem hadd hn]

/-- Items that were on a cycle are on one still, and no others. -/
lemma onCycle_addItem (h : b.Consistent) (h' : b'.Consistent) {i : Item} (hi : i ∈ b.items) :
    b'.OnCycle i ↔ b.OnCycle i := by
  have hab : AgreeOn b b' ⟨"", "", .empty⟩ ⟨"", "", .empty⟩
      fun n => normalize n ≠ normalize x.name := agreeOn_addItem hadd hfar h h'
  refine (hab.transGen_iff h h' ?_).symm
  rw [normalize_normalize]
  exact normalize_ne_of_addItem hadd hi

/-- The items on a cycle are those of before, and the new one if it reads itself. -/
lemma circular_addItem (h : b.Consistent) (h' : b'.Consistent) :
    b'.lenientSchedule.circular =
      b.lenientSchedule.circular ++ if b'.OnCycle x then [x.name] else [] := by
  have hitems : b'.computedItems = b.computedItems ++ [x].filter (·.isComputed) := by
    rw [computedItems, items_addItem hadd, List.filter_append, ← computedItems]
  have hold : (b.computedItems.filter fun i => b'.OnCycle i) =
      b.computedItems.filter fun i => b.OnCycle i := by
    refine List.filter_congr fun i hi => decide_eq_decide.mpr ?_
    exact onCycle_addItem hadd hfar h h' (List.mem_of_mem_filter hi)
  have hnew : (([x].filter (·.isComputed)).filter fun i => b'.OnCycle i) =
      if b'.OnCycle x then [x] else [] := by
    by_cases hcycle : b'.OnCycle x
    · have hx : x ∈ b'.items :=
        items_addItem hadd ▸ List.mem_append_right _ (List.mem_singleton_self x)
      obtain ⟨f, hf⟩ := h'.exists_tree hx hcycle
      simp [isComputed_of_tree? hf, hcycle]
    · simp [List.filter_filter, hcycle]
  have hnames : ((if b'.OnCycle x then [x] else []).map (·.name)) =
      if b'.OnCycle x then [x.name] else [] := by
    by_cases hcycle : b'.OnCycle x <;> simp [hcycle]
  rw [h.circular_schedule, h'.circular_schedule, hitems, List.filter_append, List.map_append, hold,
    hnew, hnames]

end

/-- **An item that no formula mentions changes no grade.**  Take a book that can come about, and an
item that it accepts, with any formula or none.  If the name of the item stands nowhere in the
formulas of the book, the lenient calculation gives every student the same score and percentage for
each item as before.  The items on a cycle are those of before, and the new item if it reads itself,
directly or through others. -/
theorem sameGrade_addItem (hb : b.Reachable) (hadd : b.addItem x = .ok b')
    (hfar : ∀ i ∈ b.computedItems, ∀ text ∈ i.formula, ¬ Mentions text x.name)
    (hs : s ∈ b.students) :
    ∃ r r', b.calculateStudent .lenient s.id = .ok r ∧
      b'.calculateStudent .lenient s.id = .ok r' ∧
      (∀ i ∈ b.items, r.SameGrade r' i.name) ∧
      r'.circular = r.circular ++ if b'.OnCycle x then [x.name] else [] := by
  have h := hb.consistent
  have h' := h.addItem hadd
  have hab : AgreeOn b b' s s fun n => normalize n ≠ normalize x.name :=
    agreeOn_addItem hadd hfar h h'
  have hs' : s ∈ b'.students := students_addItem hadd ▸ hs
  refine ⟨_, _, h.calculateStudent_eq hs, h'.calculateStudent_eq hs', fun i hi => ?_,
    circular_addItem hadd hfar h h'⟩
  have hi' : i ∈ b'.items := items_addItem hadd ▸ List.mem_append_left _ hi
  refine hab.sameGrade h h' hi hi' ?_
  rw [normalize_normalize]
  exact normalize_ne_of_addItem hadd hi

/-- A book with an item on a cycle, and a formula in which names with punctuation stand bare. -/
def labSession : List Change := [
  .addItem ⟨"Lab-1", none, 100, 1, none⟩,
  .addItem ⟨"Loop", none, 100, 1, some "Loop + Lab-1"⟩,
  .addItem ⟨"Best", none, 50, 1, some "max(Lab-1, Lab-1-Rerun) + Loop"⟩,
  .addStudent ⟨"s", "Sam", .ofList [("Lab-1", 40), ("1-Re", 7)]⟩]

/-- An item that reads itself and items of the book, one of which is on a cycle already.  Its name
shares a piece with a name that a formula mentions, but is not mentioned as a whole. -/
def latecomer : Item :=
  ⟨"1-Run", none, 100, 1, some "[1-Run] + Loop + Best"⟩

/-- The latecomer changes no grade, and joins the items on a cycle. -/
theorem sameGrade_latecomer :
    let b := empty.replay labSession
    let b' : Book := { b with items := b.items ++ [latecomer] }
    b.Reachable ∧ b.addItem latecomer = .ok b' ∧
      (∀ i ∈ b.computedItems, ∀ text ∈ i.formula, ¬ Mentions text latecomer.name) ∧
      ∃ s ∈ b.students, s.id = "s" ∧
        ∃ r r', b.calculateStudent .lenient s.id = .ok r ∧
          b'.calculateStudent .lenient s.id = .ok r' ∧
          (∀ i ∈ b.items, r.SameGrade r' i.name) ∧ r'.circular = r.circular ++ ["1-Run"] := by
  intro b b'
  have hb : b.Reachable := ⟨labSession, rfl⟩
  have hname : normalize latecomer.name ∉ b.items.map fun i => normalize i.name := by
    decide +kernel
  have hadd : b.addItem latecomer = .ok b' :=
    addItem_eq_ok.mpr ⟨by decide +kernel, hname, by simp [latecomer], by decide +kernel,
      by decide +kernel, rfl⟩
  have hfar : ∀ i ∈ b.computedItems, ∀ text ∈ i.formula, ¬ Mentions text latecomer.name := by
    decide +kernel
  have hcycle : b'.OnCycle latecomer := by decide +kernel
  obtain ⟨s, hs, hid⟩ : ∃ s ∈ b.students, s.id = "s" := by decide +kernel
  obtain ⟨r, r', hr, hr', hgrades, hcircular⟩ := sameGrade_addItem hb hadd hfar hs
  rw [if_pos hcycle] at hcircular
  exact ⟨hb, hadd, hfar, s, hs, hid, r, r', hr, hr', hgrades, hcircular⟩

end Book

end Markbook
