import Markbook.Proofs.Report.Strict

/-!
# What a calculation counts

Every step of a calculation counts one evaluation.  It also counts a failure if the formula of the
item cannot be read: in a lenient calculation nothing else fails, and in a strict one whatever fails
ends the calculation.  So the counts of a run are numbers of items that are calculated, and these
are the computed items off the cycles, each once.

* `Schedule.step_counts`, `Schedule.run_counts` — what one step counts, and what a run does.
* `length_ordered`, `countP_isUnread_ordered`, `length_circular` — the items of a schedule, counted
  among the items of the book.
* `foldl_merge` — the counts of several students.
-/

namespace Markbook

/-! ## Runs -/

/-- Is there no tree to evaluate? -/
def ComputedItem.isUnread (c : ComputedItem) : Bool :=
  !c.tree.isOk

namespace Schedule

variable {mode : Mode}

/-- **A step counts one evaluation**, and one failure exactly if the formula cannot be read. -/
lemma step_counts {p q : Progress} {c : ComputedItem} (h : step mode p c = .ok q) :
    q.evaluated = p.evaluated + 1 ∧ q.zeroed = p.zeroed + if c.isUnread then 1 else 0 := by
  rw [step.eq_def] at h
  cases htree : c.tree with
  | error e =>
      have hvalue : c.evaluate mode p.bindings = .error e := by
        rw [ComputedItem.evaluate, htree]
        rfl
      have hunread : c.isUnread = true := by rw [ComputedItem.isUnread, htree]; rfl
      rw [hvalue] at h
      cases mode with
      | strict => cases h
      | lenient =>
          cases h
          exact ⟨rfl, by rw [if_pos hunread]⟩
  | ok f =>
      have hread : c.isUnread = false := by rw [ComputedItem.isUnread, htree]; rfl
      have hvalue : c.evaluate mode p.bindings = f.evaluate mode p.bindings := by
        rw [ComputedItem.evaluate, htree]
        rfl
      rw [hvalue] at h
      cases hf : f.evaluate mode p.bindings with
      | ok x =>
          rw [hf] at h
          cases h
          exact ⟨rfl, by simp [hread]⟩
      | error e =>
          rw [hf] at h
          cases mode with
          | strict => cases h
          | lenient =>
              obtain ⟨x, hx⟩ := f.exists_evaluate_lenient (b := p.bindings)
              rw [hx] at hf
              cases hf

/-- **A run counts its items**, and those among them whose formula cannot be read. -/
theorem run_counts : ∀ {items : List ComputedItem} {p q : Progress},
    items.foldlM (step mode) p = .ok q →
      q.evaluated = p.evaluated + items.length ∧
        q.zeroed = p.zeroed + items.countP (·.isUnread)
  | [], p, q, h => by
      cases h
      exact ⟨rfl, rfl⟩
  | c :: rest, p, q, h => by
      rw [List.foldlM_cons] at h
      obtain ⟨r, hr, hrest⟩ := Except.bind_eq_ok.mp h
      obtain ⟨hevaluated, hzeroed⟩ := step_counts hr
      obtain ⟨hevaluated', hzeroed'⟩ := run_counts hrest
      rw [List.length_cons, List.countP_cons]
      omega

end Schedule

/-! ## The items of a schedule -/

namespace Book

variable {b : Book} {mode : Mode}

/-- Has the item a formula that cannot be read? -/
def isUnread (b : Book) (mode : Mode) (i : Item) : Bool :=
  i.formula.any fun text => !(Formula.read mode (b.items.map (·.name)) text).isOk

lemma isUnread_lenient {i : Item} :
    b.isUnread .lenient i = true ↔ ∃ e, b.tree? i = some (.error e) := by
  rw [isUnread, tree?]
  cases i.formula with
  | none => simp
  | some text =>
      cases hread : Formula.read .lenient (b.items.map (·.name)) text <;>
        simp [hread, Except.isOk, Except.toBool]

/-- Lists of things with distinct names have the same length if they have the same names. -/
lemma length_eq_of_names {α β : Type} {name : α → String} {name' : β → String} {xs : List α}
    {ys : List β} (hxs : (xs.map name).Nodup) (hys : (ys.map name').Nodup)
    (h : ∀ n, n ∈ xs.map name ↔ n ∈ ys.map name') : xs.length = ys.length := by
  have hperm := (List.perm_ext_iff_of_nodup hxs hys).mpr h
  rw [← List.length_map name, hperm.length_eq, List.length_map]

lemma Consistent.nodup_names (h : b.Consistent) : (b.items.map (·.name)).Nodup := by
  have hplain := h.distinctItems
  rw [← Function.comp_def normalize Item.name, ← List.map_map] at hplain
  exact hplain.of_map

lemma Consistent.nodup_names_ordered (h : b.Consistent) :
    (b.lenientSchedule.ordered.map (·.name)).Nodup :=
  List.pairwise_map.mpr (h.pairwise_ordered.imp fun hcd heq => hcd.1 (congrArg normalize heq))

/-- **As many items are calculated** as there are computed items off the cycles. -/
theorem Consistent.length_ordered (h : b.Consistent) : b.lenientSchedule.ordered.length =
    b.computedItems.length - (b.computedItems.filter fun i => b.OnCycle i).length := by
  have hsplit := List.length_eq_countP_add_countP (fun i => decide (b.OnCycle i))
    (l := b.computedItems)
  have hnodup : ((b.computedItems.filter fun i => ¬ b.OnCycle i).map (·.name)).Nodup :=
    h.nodup_names.sublist ((List.filter_sublist.trans List.filter_sublist).map _)
  -- The schedule has its own record of an item, so the two lists are compared by name.
  have hlength := length_eq_of_names h.nodup_names_ordered hnodup fun n => by
    simp only [List.mem_map, List.mem_filter, decide_eq_true_eq, h.mem_ordered]
    constructor
    · rintro ⟨c, ⟨hc, hcycle⟩, rfl⟩
      obtain ⟨i, hi, heq⟩ := exists_computedItem hc
      exact ⟨i, ⟨hi, fun hon => hcycle (heq ▸ onCycle_iff_depends.mp hon)⟩, heq⟩
    · rintro ⟨i, ⟨hi, hcycle⟩, rfl⟩
      obtain ⟨c, hc, heq⟩ := exists_computed hi
      exact ⟨c, ⟨hc, fun hdep => hcycle (onCycle_iff_depends.mpr (heq ▸ hdep))⟩, heq⟩
  rw [hlength, ← List.countP_eq_length_filter, ← List.countP_eq_length_filter, hsplit]
  simp

/-- **No item that cannot be read is left out**: it reads nothing, so it is on no cycle. -/
theorem Consistent.countP_isUnread_ordered (h : b.Consistent) :
    b.lenientSchedule.ordered.countP (·.isUnread) =
      (b.computedItems.filter (b.isUnread .lenient)).length := by
  rw [List.countP_eq_length_filter]
  refine length_eq_of_names (h.nodup_names_ordered.sublist (List.filter_sublist.map _))
    (h.nodup_names.sublist ((List.filter_sublist.trans List.filter_sublist).map _)) fun n => ?_
  simp only [List.mem_map, List.mem_filter, isUnread_lenient, h.mem_ordered]
  constructor
  · rintro ⟨c, ⟨⟨hc, _⟩, hunread⟩, rfl⟩
    obtain ⟨i, hi, hname, htree⟩ := mem_computed.mp hc
    cases hc' : c.tree with
    | error e =>
        rw [hc'] at htree
        exact ⟨i, ⟨mem_computedItems_of_tree? hi htree, e, htree⟩, hname⟩
    | ok f =>
        rw [ComputedItem.isUnread, hc'] at hunread
        cases hunread
  · rintro ⟨i, ⟨hi, e, htree⟩, rfl⟩
    have hi := List.mem_of_mem_filter hi
    refine ⟨⟨i.name, .error e⟩, ⟨⟨mem_computed.mpr ⟨i, hi, rfl, htree⟩, fun hdep => ?_⟩, rfl⟩, rfl⟩
    obtain ⟨f, hf⟩ := h.exists_tree hi (onCycle_iff_depends.mpr hdep)
    rw [htree] at hf
    cases hf

lemma length_circular (b : Book) : b.lenientSchedule.plan.circular.length =
    (b.computedItems.filter fun i => b.OnCycle i).length := by
  have hplan : b.lenientSchedule.plan.circular = _ := DependencyGraph.plan_circular
  rw [hplan, names_computed, List.map_map, List.filter_map, List.length_map]
  refine congrArg List.length (List.filter_congr fun i _ => ?_)
  simp [onCycle_iff_depends]

/-- Both modes follow the same schedule where there is one, and can read the same formulas. -/
lemma schedule_eq_ok {schedule : Schedule} (h : b.schedule mode = .ok schedule) :
    schedule = b.lenientSchedule ∧
      b.computedItems.filter (b.isUnread mode) =
        b.computedItems.filter (b.isUnread .lenient) := by
  cases mode with
  | lenient =>
      cases h
      exact ⟨rfl, rfl⟩
  | strict =>
      obtain ⟨hreadable, _, rfl⟩ := schedule_strict_iff.mp h
      refine ⟨rfl, List.filter_congr fun i hi => ?_⟩
      rw [isUnread, isUnread]
      cases htext : i.formula with
      | none => rw [Option.any_none, Option.any_none]
      | some text =>
          obtain ⟨f, hf⟩ := hreadable i (List.mem_of_mem_filter hi) text htext
          rw [Option.any_some, Option.any_some, hf, Formula.read_lenient_of_strict hf]

end Book

/-! ## Several students -/

/-- Where the same was done for every student, it adds up. -/
lemma foldl_merge {α : Type} {tally : α → Tally} {evaluated zeroed : Nat} :
    ∀ {xs : List α} (t : Tally), (∀ x ∈ xs, tally x = ⟨1, evaluated, zeroed, 0⟩) →
      xs.foldl (fun t x => t.merge (tally x)) t =
        ⟨t.students + xs.length, t.evaluated + xs.length * evaluated,
          t.zeroed + xs.length * zeroed, t.circular⟩
  | [], t, _ => by simp
  | x :: xs, t, h => by
      obtain ⟨hx, hxs⟩ := List.forall_mem_cons.mp h
      rw [List.foldl_cons, foldl_merge _ hxs, hx, Tally.merge, List.length_cons, Nat.add_one_mul,
        Nat.add_one_mul]
      simp only [Tally.mk.injEq, and_true]
      omega

end Markbook
