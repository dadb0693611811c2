import Mathlib.Data.List.Forall2
import Markbook.Proofs.Report.Schedule

/-!
# Reports solve their equations

In every book that can come about, the lenient report of every student is a solution of the
equations of the book.  The final bindings of the run and what the report shows are the same thing,
although the run starts from zeros for the items on a cycle and fills in the others one by one.

* `finalBindings` — the bindings at the end of the run.
* `get?_shown` — they are what the report shows.
* `calculateStudent_solves` — the report solves the equations.
-/

namespace Markbook

namespace Book

variable {b : Book} {s : Student} {n : String}

/-! ## The final bindings -/

/-- The bindings at the end of a lenient calculation. -/
def finalBindings (b : Book) (s : Student) : Bindings :=
  b.lenientSchedule.ordered.foldl ComputedItem.settle
    (b.lenientSchedule.start (.ofList (b.scores s)))

/-- A name that is not the name of a computed item has the score it had at the start. -/
lemma Consistent.get?_finalBindings_of_ne (h : b.Consistent)
    (hn : ∀ i ∈ b.computedItems, normalize i.name ≠ normalize n) :
    (b.finalBindings s).get? n = (Bindings.ofList (b.scores s)).get? n := by
  rw [finalBindings, get?_foldl_settle_of_ne, Schedule.start, Bindings.get?_extend_of_notMem]
  · intro e he
    rw [h.circular_schedule] at he
    obtain ⟨_, hname, rfl⟩ := List.mem_map.mp he
    obtain ⟨i, hi, rfl⟩ := List.mem_map.mp hname
    exact hn i (List.mem_of_mem_filter hi)
  · intro c hc
    obtain ⟨i, hi, heq⟩ := exists_computedItem (h.mem_ordered.mp hc).1
    exact heq ▸ hn i hi

/-- Items on a cycle stay at zero. -/
lemma Consistent.get?_finalBindings_of_onCycle (h : b.Consistent) {i : Item}
    (hi : i ∈ b.computedItems) (hcycle : b.OnCycle i) :
    (b.finalBindings s).get? i.name = some 0 := by
  rw [finalBindings, get?_foldl_settle_of_ne, Schedule.start, h.circular_schedule, List.map_map]
  · refine Bindings.get?_extend_of_mem (m := i.name) ?_ ?_ rfl
    · rw [List.map_map]
      exact h.nodup_computedItems.sublist (List.filter_sublist.map _)
    · exact List.mem_map.mpr ⟨i, List.mem_filter.mpr ⟨hi, by simpa using hcycle⟩, rfl⟩
  · intro c hc heq
    refine (h.mem_ordered.mp hc).2 ?_
    rw [heq]
    exact onCycle_iff_depends.mp hcycle

/-- The other computed items have the values of their formulas under the final bindings. -/
lemma Consistent.get?_finalBindings_of_tree (h : b.Consistent) {i : Item} (hi : i ∈ b.items)
    {t : Except FormulaError Formula} (ht : b.tree? i = some t) (hcycle : ¬ b.OnCycle i) :
    (b.finalBindings s).get? i.name =
      some (orZero (ComputedItem.evaluate ⟨i.name, t⟩ .lenient (b.finalBindings s))) := by
  have hmem : ⟨i.name, t⟩ ∈ b.computed .lenient := mem_computed.mpr ⟨i, hi, rfl, ht⟩
  have hordered : ⟨i.name, t⟩ ∈ b.lenientSchedule.ordered :=
    h.mem_ordered.mpr ⟨hmem, fun hdep => hcycle (onCycle_iff_depends.mpr hdep)⟩
  have hsettled := get?_foldl_settle (b := b.lenientSchedule.start (.ofList (b.scores s)))
    (fun c hc n hn => normalize_of_reads (h.mem_ordered.mp hc).1 hn)
    (fun c hc => h.not_reads_self hc) h.pairwise_ordered _ hordered
  rw [← finalBindings] at hsettled
  exact hsettled

/-! ## What the report shows -/

def lenientReport (b : Book) (s : Student) : StudentReport :=
  b.report b.lenientSchedule s (b.finalBindings s)

/-- The marks under the id of a student on the roster are those of the student. -/
lemma Consistent.bindingsFor (h : b.Consistent) (hs : s ∈ b.students) :
    b.bindingsFor s.id = .ok (.ofList (b.scores s)) := by
  rw [Book.bindingsFor, h.student? hs]

/-- **A lenient calculation gives a report** for every student on the roster. -/
lemma Consistent.calculateStudent_eq (h : b.Consistent) (hs : s ∈ b.students) :
    b.calculateStudent .lenient s.id = .ok (b.lenientReport s) := by
  obtain ⟨p, hrun, hbindings⟩ := b.lenientSchedule.run_lenient (.ofList (b.scores s))
  rw [calculateStudent, h.student? hs, schedule_lenient]
  simp only [reportStudent, h.bindingsFor hs, bind, Except.bind, hrun, pure, Except.pure]
  rw [lenientReport, finalBindings, ← hbindings]

/-- A report has a result for every item of the book. -/
lemma Consistent.item?_report (h : b.Consistent) {i : Item} (hi : i ∈ b.items)
    (schedule : Schedule) (computed : Bindings) :
    (b.report schedule s computed).item? i.name = some (itemResult s computed i) := by
  have hfind : (b.report schedule s computed).item? i.name =
      (b.item? i.name).map (itemResult s computed) := List.find?_map
  rw [hfind, h.item? hi, Option.map_some]

lemma Consistent.score?_report (h : b.Consistent) {i : Item} (hi : i ∈ b.items)
    (schedule : Schedule) (computed : Bindings) :
    (b.report schedule s computed).score? i.name = (itemResult s computed i).score := by
  rw [StudentReport.score?, h.item?_report hi, Option.bind_some]

/-- A mark of the student is the mark of an item that takes marks. -/
lemma mem_scores {m : String} {x : Float} : (m, x) ∈ b.scores s ↔
    ∃ i ∈ b.scoredItems, i.name = m ∧ s.marks.get? m = some x := by
  simp only [scores, List.mem_filterMap, Option.map_eq_some_iff, Prod.mk.injEq]
  constructor
  · rintro ⟨i, hi, y, hy, rfl, rfl⟩
    exact ⟨i, hi, rfl, hy⟩
  · rintro ⟨i, hi, rfl, hx⟩
    exact ⟨i, hi, x, hx, rfl, rfl⟩

/-- No item both takes marks and is computed, under any spelling. -/
lemma Consistent.normalize_ne (h : b.Consistent) {i j : Item} (hi : i ∈ b.scoredItems)
    (hj : j ∈ b.computedItems) : normalize i.name ≠ normalize j.name := by
  obtain ⟨hi, hscored⟩ := List.mem_filter.mp hi
  obtain ⟨hj, hcomputed⟩ := List.mem_filter.mp hj
  intro heq
  obtain rfl := List.inj_on_of_nodup_map h.distinctItems hi hj heq
  rw [hcomputed] at hscored
  cases hscored

lemma Consistent.mem_computedScores (h : b.Consistent) {m : String} {x : Float} :
    (m, x) ∈ b.computedScores (b.lenientReport s) ↔
      ∃ i ∈ b.computedItems, i.name = m ∧ (b.finalBindings s).get? m = some x := by
  have hscore : ∀ i ∈ b.computedItems,
      (b.lenientReport s).score? i.name = (b.finalBindings s).get? i.name := by
    intro i hi
    obtain ⟨hi, hcomputed⟩ := List.mem_filter.mp hi
    rw [lenientReport, h.score?_report hi, itemResult, if_pos hcomputed]
  simp only [computedScores, List.mem_filterMap, Option.map_eq_some_iff, Prod.mk.injEq]
  constructor
  · rintro ⟨i, hi, y, hy, rfl, rfl⟩
    exact ⟨i, hi, rfl, (hscore i hi).symm.trans hy⟩
  · rintro ⟨i, hi, rfl, hx⟩
    exact ⟨i, hi, x, (hscore i hi).trans hx, rfl, rfl⟩

/-- Where items have different names, so have scores that are listed by item. -/
lemma nodup_filterMap_score {items : List Item} {score? : Item → Option Float}
    (h : (items.map fun i => normalize i.name).Nodup) :
    ((items.filterMap fun i => (score? i).map (i.name, ·)).map fun e => normalize e.1).Nodup := by
  refine List.pairwise_map.mpr (List.Pairwise.filterMap _ ?_ (List.pairwise_map.mp h))
  intro i j hij e he e' he'
  obtain ⟨_, _, rfl⟩ := Option.map_eq_some_iff.mp he
  obtain ⟨_, _, rfl⟩ := Option.map_eq_some_iff.mp he'
  exact hij

lemma Consistent.nodup_scores (h : b.Consistent) :
    ((b.scores s).map fun e => normalize e.1).Nodup :=
  nodup_filterMap_score (h.distinctItems.sublist (List.filter_sublist.map _))

/-- All scores of the report stand under different names. -/
lemma Consistent.nodup_shown (h : b.Consistent) (r : StudentReport) :
    ((b.scores s ++ b.computedScores r).map fun e => normalize e.1).Nodup := by
  rw [List.map_append, List.nodup_append]
  refine ⟨h.nodup_scores, nodup_filterMap_score h.nodup_computedItems, ?_⟩
  intro x hx y hy
  obtain ⟨⟨m, _⟩, he, rfl⟩ := List.mem_map.mp hx
  obtain ⟨⟨k, _⟩, he', rfl⟩ := List.mem_map.mp hy
  obtain ⟨i, hi, rfl, _⟩ := mem_scores.mp he
  obtain ⟨j, hj, hjk⟩ := List.mem_filterMap.mp he'
  obtain ⟨_, _, hpair⟩ := Option.map_eq_some_iff.mp hjk
  obtain ⟨rfl, _⟩ := Prod.mk.inj hpair
  exact h.normalize_ne hi hj

/-- **The final bindings are what the report shows.** -/
theorem Consistent.get?_shown (h : b.Consistent) (n : String) :
    (b.shown s (b.lenientReport s)).get? n = (b.finalBindings s).get? n := by
  refine Option.ext fun x => ?_
  rw [shown, Bindings.get?_ofList_eq_some (h.nodup_shown _)]
  simp only [List.mem_append]
  constructor
  · rintro ⟨m, hm | hm, hmn⟩
    · obtain ⟨i, hi, rfl, _⟩ := mem_scores.mp hm
      rw [h.get?_finalBindings_of_ne fun j hj heq => h.normalize_ne hi hj (hmn.trans heq.symm)]
      exact (Bindings.get?_ofList_eq_some h.nodup_scores).mpr ⟨i.name, hm, hmn⟩
    · obtain ⟨i, _, rfl, hx⟩ := h.mem_computedScores.mp hm
      rwa [← Bindings.get?_congr hmn]
  · intro hx
    by_cases hn : ∃ i ∈ b.computedItems, normalize i.name = normalize n
    · obtain ⟨i, hi, heq⟩ := hn
      rw [← Bindings.get?_congr heq] at hx
      exact ⟨i.name, Or.inr (h.mem_computedScores.mpr ⟨i, hi, rfl, hx⟩), heq⟩
    · rw [h.get?_finalBindings_of_ne fun j hj heq => hn ⟨j, hj, heq⟩] at hx
      obtain ⟨m, hm, hmn⟩ := (Bindings.get?_ofList_eq_some h.nodup_scores).mp hx
      exact ⟨m, Or.inl hm, hmn⟩

/-! ## The equations -/

lemma Consistent.solves (h : b.Consistent) {i : Item} (hi : i ∈ b.items) :
    b.Solves s (b.shown s (b.lenientReport s)) i (itemResult s (b.finalBindings s) i) := by
  have hcomputed : ∀ {t}, b.tree? i = some t → i.isComputed = true ∧
      (itemResult s (b.finalBindings s) i).score = (b.finalBindings s).get? i.name := by
    intro t ht
    have hcomputed := isComputed_of_tree? ht
    exact ⟨hcomputed, by rw [itemResult, if_pos hcomputed]⟩
  have hunread : ∀ e, b.tree? i = some (.error e) → ¬ b.OnCycle i := by
    intro e he hcycle
    obtain ⟨f, hf⟩ := h.exists_tree hi hcycle
    rw [he] at hf
    cases hf
  refine ⟨rfl, fun hscored => ?_, fun hcycle => ?_, fun e he => ?_, fun f hf hcycle => ?_⟩
  · rw [itemResult, hscored]
    rfl
  · obtain ⟨f, hf⟩ := h.exists_tree hi hcycle
    obtain ⟨hmem, hscore⟩ := hcomputed hf
    rw [hscore, h.get?_finalBindings_of_onCycle (List.mem_filter.mpr ⟨hi, hmem⟩) hcycle]
  · rw [(hcomputed he).2, h.get?_finalBindings_of_tree hi he (hunread e he)]
    rfl
  · obtain ⟨x, hx⟩ := f.exists_evaluate_lenient (b := b.finalBindings s)
    refine ⟨x, ?_, ?_⟩
    · rw [← hx]
      exact Formula.evaluate_congr f fun n _ => h.get?_shown n
    · rw [(hcomputed hf).2, h.get?_finalBindings_of_tree hi hf hcycle]
      change some (orZero (f.evaluate .lenient (b.finalBindings s))) = some x
      rw [hx, orZero]

/-- **Reports solve their equations.**  For every student of every book that can come about, the
lenient calculation gives a report with one result for each item of the book, in its order.  Every
result solves the equation of its item, the names in formulas standing for what the same report
shows; and the report lists the computed items on a cycle, in the order of the book. -/
theorem calculateStudent_solves (hb : b.Reachable) (hs : s ∈ b.students) :
    ∃ r, b.calculateStudent .lenient s.id = .ok r ∧ r.id = s.id ∧ r.name = s.name ∧
      List.Forall₂ (b.Solves s (b.shown s r)) b.items r.items ∧
      r.circular = (b.computedItems.filter fun i => b.OnCycle i).map (·.name) := by
  have h := hb.consistent
  refine ⟨b.lenientReport s, h.calculateStudent_eq hs, rfl, rfl, ?_, h.circular_schedule⟩
  exact List.forall₂_map_right_iff.mpr (List.forall₂_same.mpr fun i hi => h.solves hi)

/-- A book in which `Total` reads a computed item, an item on a cycle and an item that is computed
later. -/
def sampleChanges : List Change := [
  .addItem ⟨"Test 1", none, 100, 1, none⟩,
  .addItem ⟨"Total", none, 100, 1, some "Double + Loop + [Half]"⟩,
  .addItem ⟨"Loop", none, 100, 1, some "1 + Loop"⟩,
  .addItem ⟨"Half", none, 100, 1, some "Test 1 / 2"⟩,
  .addItem ⟨"Double", none, 100, 1, some "2 * [Test 1]"⟩,
  .addStudent ⟨"s", "Sam", .empty⟩,
  .record "s" "Test1" 40]

/-- The report of the sample book, and that it solves its equations. -/
theorem sample_solves : let b := empty.replay sampleChanges
    b.Reachable ∧ ((b.calculateStudent .lenient "s").toOption.map fun r =>
      (r.items.map (·.score), r.circular)) =
        some ([some 40, some 100, some 0, some 20, some 80], ["Loop"]) ∧
      ∃ s ∈ b.students, s.id = "s" ∧ ∃ r, b.calculateStudent .lenient s.id = .ok r ∧
        r.id = s.id ∧ r.name = s.name ∧
        List.Forall₂ (b.Solves s (b.shown s r)) b.items r.items ∧
        r.circular = (b.computedItems.filter fun i => b.OnCycle i).map (·.name) := by
  intro b
  have hids : "s" ∈ b.students.map (·.id) := by decide +kernel
  obtain ⟨s, hs, hid⟩ := List.mem_map.mp hids
  have hb : b.Reachable := ⟨sampleChanges, rfl⟩
  exact ⟨hb, by decide +kernel, s, hs, hid, calculateStudent_solves hb hs⟩

end Book

end Markbook
