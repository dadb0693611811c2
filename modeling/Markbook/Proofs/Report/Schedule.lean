import Mathlib.Data.List.Induction
import Markbook.Proofs.Book.Invariant
import Markbook.Proofs.Dependency.Plan
import Markbook.Proofs.Formula.Names
import Markbook.Proofs.Report.Run
import Markbook.Report.Equations

/-!
# The schedule of a book

The schedule of a consistent book lists its computed items off the cycles, in an order in which no
item reads a later one, and names the computed items on a cycle as the book has them.

* `reads_graph`, `onCycle_iff_depends` — the graph of a book has the readings of its equations.
* `mem_ordered`, `pairwise_ordered` — what is calculated, and in which order.
* `circular_schedule` — what counts as zero.
-/

namespace Markbook

namespace Book

variable {b : Book} {i : Item}

lemma Consistent.item? (h : b.Consistent) (hi : i ∈ b.items) : b.item? i.name = some i :=
  (find?_key_eq_some h.distinctItems).mpr ⟨hi, rfl⟩

lemma Consistent.student? {s : Student} (h : b.Consistent) (hs : s ∈ b.students) :
    b.student? s.id = some s :=
  (find?_key_eq_some h.distinctStudents).mpr ⟨hs, rfl⟩

/-! ## Computed items -/

lemma computed_lenient (b : Book) :
    b.computed .lenient = b.items.filterMap fun i => (b.tree? i).map (⟨i.name, ·⟩) := by
  simp only [computed, tree?, Option.map_map]
  rfl

lemma isComputed_eq (b : Book) (i : Item) : i.isComputed = (b.tree? i).isSome := by
  simp [Item.isComputed, tree?]

lemma isComputed_of_tree? {t : Except FormulaError Formula} (ht : b.tree? i = some t) :
    i.isComputed = true := by
  rw [isComputed_eq b, ht, Option.isSome_some]

lemma mem_computedItems_of_tree? (hi : i ∈ b.items) {t : Except FormulaError Formula}
    (ht : b.tree? i = some t) : i ∈ b.computedItems :=
  List.mem_filter.mpr ⟨hi, isComputed_of_tree? ht⟩

lemma mem_computed {c : ComputedItem} :
    c ∈ b.computed .lenient ↔ ∃ i ∈ b.items, i.name = c.name ∧ b.tree? i = some c.tree := by
  obtain ⟨name, tree⟩ := c
  simp only [computed_lenient, List.mem_filterMap, Option.map_eq_some_iff,
    ComputedItem.mk.injEq]
  constructor
  · rintro ⟨i, hi, t, ht, hname, rfl⟩
    exact ⟨i, hi, hname, ht⟩
  · rintro ⟨i, hi, hname, ht⟩
    exact ⟨i, hi, tree, ht, hname, rfl⟩

/-- The computed items have the names of the items that are computed, in order. -/
lemma names_computed (b : Book) :
    (b.computed .lenient).map (·.name) = b.computedItems.map (·.name) := by
  rw [computed_lenient, computedItems]
  generalize b.items = items
  induction items with
  | nil => rfl
  | cons i rest ih =>
      rw [List.filterMap_cons, List.filter_cons, isComputed_eq b]
      cases b.tree? i <;> simpa using ih

lemma exists_computedItem {c : ComputedItem} (hc : c ∈ b.computed .lenient) :
    ∃ i ∈ b.computedItems, i.name = c.name :=
  List.mem_map.mp (names_computed b ▸ List.mem_map_of_mem hc)

lemma exists_computed (hi : i ∈ b.computedItems) : ∃ c ∈ b.computed .lenient, c.name = i.name :=
  List.mem_map.mp (names_computed b ▸ List.mem_map_of_mem hi)

lemma Consistent.nodup_computedItems (h : b.Consistent) :
    (b.computedItems.map fun i => normalize i.name).Nodup :=
  h.distinctItems.sublist (List.filter_sublist.map _)

lemma Consistent.nodup_computed (h : b.Consistent) :
    ((b.computed .lenient).map fun c => normalize c.name).Nodup := by
  have hnames := congrArg (List.map normalize) (names_computed b)
  rw [List.map_map, List.map_map] at hnames
  exact hnames ▸ h.nodup_computedItems

/-- Computed items read plain names. -/
lemma normalize_of_reads {c : ComputedItem} (hc : c ∈ b.computed .lenient) {n : String}
    (h : c.Reads n) : normalize n = n := by
  obtain ⟨f, hf, hn⟩ := h
  obtain ⟨i, _, _, htree⟩ := mem_computed.mp hc
  rw [hf, tree?] at htree
  obtain ⟨text, _, hread⟩ := Option.map_eq_some_iff.mp htree
  exact Formula.normalize_of_mem_references hread hn

/-! ## The graph -/

lemma graph_append_ok {items : List ComputedItem} {c : ComputedItem} {f : Formula}
    (h : c.tree = .ok f) : graph (items ++ [c]) = (graph items).addFormula c.name f := by
  rw [graph, List.foldl_append, List.foldl_cons, h]
  rfl

lemma graph_append_error {items : List ComputedItem} {c : ComputedItem} {e : FormulaError}
    (h : c.tree = .error e) : graph (items ++ [c]) = graph items := by
  rw [graph, List.foldl_append, List.foldl_cons, h]
  rfl

/-- The graph of computed items holds what they read. -/
lemma reads_graph {items : List ComputedItem} {x y : String} :
    (graph items).Reads x y ↔
      ∃ c ∈ items, normalize c.name = x ∧ ∃ n, c.Reads n ∧ normalize n = y := by
  induction items using List.reverseRecOn with
  | nil => simp [graph]
  | append_singleton items c ih =>
      cases htree : c.tree with
      | error e =>
          have hnone : ∀ n, ¬ c.Reads n := by simp [ComputedItem.Reads, htree]
          rw [graph_append_error htree, ih]
          simp [or_and_right, exists_or, hnone]
      | ok f =>
          have hreads : ∀ n, c.Reads n ↔ n ∈ f.references := by simp [ComputedItem.Reads, htree]
          rw [graph_append_ok htree, DependencyGraph.reads_addFormula, ih]
          simp only [List.mem_append, List.mem_singleton, or_and_right, exists_or,
            exists_eq_left, hreads, eq_comm (a := x), eq_comm (a := y)]
          exact or_comm

/-- The graph has the readings of the equations. -/
lemma reads_graph_computed (b : Book) : (graph (b.computed .lenient)).Reads = b.Reads := by
  funext x y
  rw [eq_iff_iff, reads_graph, Book.Reads]
  constructor
  · rintro ⟨c, hc, rfl, n, hn, rfl⟩
    rw [normalize_of_reads hc hn]
    obtain ⟨f, hf, hmem⟩ := hn
    obtain ⟨i, hi, hname, htree⟩ := mem_computed.mp hc
    exact ⟨i, hi, by rw [hname], f, by rw [htree, hf], hmem⟩
  · rintro ⟨i, hi, rfl, f, htree, hy⟩
    have hc : ⟨i.name, .ok f⟩ ∈ b.computed .lenient := mem_computed.mpr ⟨i, hi, rfl, htree⟩
    have hreads : ComputedItem.Reads ⟨i.name, .ok f⟩ y := ⟨f, rfl, hy⟩
    exact ⟨_, hc, rfl, y, hreads, normalize_of_reads hc hreads⟩

lemma onCycle_iff_depends : b.OnCycle i ↔
    (graph (b.computed .lenient)).Depends (normalize i.name) (normalize i.name) := by
  rw [OnCycle, DependencyGraph.Depends, reads_graph_computed]

/-- Whether an item is on a cycle is found by searching the graph. -/
instance : Decidable (b.OnCycle i) :=
  decidable_of_iff _ onCycle_iff_depends.symm

/-- The formula of an item on a cycle can be read. -/
lemma Consistent.exists_tree (h : b.Consistent) (hi : i ∈ b.items) (hcycle : b.OnCycle i) :
    ∃ f, b.tree? i = some (.ok f) := by
  obtain ⟨y, hreads, _⟩ := Relation.TransGen.head'_iff.mp hcycle
  obtain ⟨j, hj, hname, f, htree, _⟩ := hreads
  obtain rfl := List.inj_on_of_nodup_map h.distinctItems hj hi hname
  exact ⟨f, htree⟩

/-! ## The schedule -/

def lenientSchedule (b : Book) : Schedule :=
  ⟨b.computed .lenient,
    (graph (b.computed .lenient)).plan ((b.computed .lenient).map (·.name))⟩

lemma schedule_lenient (b : Book) : b.schedule .lenient = .ok b.lenientSchedule := rfl

lemma Consistent.item?_schedule (h : b.Consistent) {x : String} {c : ComputedItem} :
    b.lenientSchedule.item? x = some c ↔ c ∈ b.computed .lenient ∧ normalize c.name = x :=
  find?_key_eq_some h.nodup_computed

lemma Consistent.mem_ordered (h : b.Consistent) {c : ComputedItem} :
    c ∈ b.lenientSchedule.ordered ↔ c ∈ b.computed .lenient ∧
      ¬ (graph (b.computed .lenient)).Depends (normalize c.name) (normalize c.name) := by
  simp only [Schedule.ordered, List.mem_filterMap, h.item?_schedule]
  constructor
  · rintro ⟨x, hx, hc, rfl⟩
    exact ⟨hc, (DependencyGraph.mem_plan_order.mp hx).2⟩
  · rintro ⟨hc, hcycle⟩
    refine ⟨normalize c.name, DependencyGraph.mem_plan_order.mpr ⟨?_, hcycle⟩, hc, rfl⟩
    exact List.mem_map_of_mem (List.mem_map_of_mem hc)

/-- An item that is calculated does not read itself. -/
lemma Consistent.not_reads_self (h : b.Consistent) {c : ComputedItem}
    (hc : c ∈ b.lenientSchedule.ordered) : ¬ c.Reads (normalize c.name) := by
  intro hreads
  obtain ⟨hmem, hcycle⟩ := h.mem_ordered.mp hc
  exact hcycle (.single (reads_graph.mpr ⟨c, hmem, rfl, _, hreads, normalize_normalize _⟩))

/-- **No item reads one that is calculated later.** -/
lemma Consistent.pairwise_ordered (h : b.Consistent) :
    b.lenientSchedule.ordered.Pairwise fun c d =>
      normalize c.name ≠ normalize d.name ∧ ¬ c.Reads (normalize d.name) := by
  refine List.Pairwise.filterMap _ ?_ DependencyGraph.pairwise_plan_order
  intro x y hxy c hc d hd
  obtain ⟨hcmem, rfl⟩ := h.item?_schedule.mp hc
  obtain ⟨_, rfl⟩ := h.item?_schedule.mp hd
  obtain ⟨hne, hnot⟩ := hxy
  exact ⟨hne, fun hreads =>
    hnot (reads_graph.mpr ⟨c, hcmem, rfl, _, hreads, normalize_normalize _⟩)⟩

/-- **The names of the computed items on a cycle**, as the book has them and in its order. -/
lemma Consistent.circular_schedule (h : b.Consistent) :
    b.lenientSchedule.circular =
      (b.computedItems.filter fun i => b.OnCycle i).map (·.name) := by
  have hfound : ∀ c ∈ b.computed .lenient,
      (b.lenientSchedule.item? (normalize c.name)).map (·.name) = some c.name := by
    intro c hc
    rw [h.item?_schedule.mpr ⟨hc, rfl⟩]
    rfl
  have hnames : b.lenientSchedule.circular = ((b.computed .lenient).map (·.name)).filter fun n =>
      (graph (b.computed .lenient)).Depends (normalize n) (normalize n) := by
    simp only [Schedule.circular]
    have hplan : b.lenientSchedule.plan.circular = _ := DependencyGraph.plan_circular
    rw [hplan, List.map_map, List.filter_map, List.filterMap_map, List.filter_map]
    refine (List.filterMap_congr fun c hc => ?_).trans (congrFun List.filterMap_eq_map _)
    exact hfound c (List.mem_of_mem_filter hc)
  rw [hnames, names_computed, List.filter_map]
  congr 1
  refine List.filter_congr fun i _ => ?_
  simp only [Function.comp_apply, onCycle_iff_depends]

end Book

end Markbook
