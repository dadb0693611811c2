import Markbook.Proofs.Formula.Strict
import Markbook.Proofs.Report.Equations
import Markbook.Report.Clean

/-!
# Strict calculations

A strict calculation fails at the first thing that a lenient one would take for zero.  So where it
succeeds both do the same, step by step, and it succeeds exactly on the books in which there is
nothing to be taken for zero.

That a name has a score when a formula is evaluated is a matter of the order: the computed items
that an item reads come before it, so their names are bound by then.

* `schedule_strict_iff` — which schedules pass.
* `exists_foldlM_step_strict` — which runs pass.
* `calculateAll_strict` — **a strict calculation accepts the clean books** and does there what a
  lenient one does.
-/

namespace Markbook

/-! ## The schedule -/

namespace Book

variable {b : Book}

/-- Where all formulas can be read strictly, both readings are the same. -/
lemma computed_strict (h : ∀ i ∈ b.items, ∀ text ∈ i.formula,
    ∃ f, Formula.read .strict (b.items.map (·.name)) text = .ok f) :
    b.computed .strict = b.computed .lenient := by
  refine List.filterMap_congr fun i hi => ?_
  cases htext : i.formula with
  | none => simp only [Option.map_none]
  | some text =>
      obtain ⟨f, hf⟩ := h i hi text htext
      simp only [Option.map_some, hf, Formula.read_lenient_of_strict hf]

lemma firstProblem?_eq_none {s : Schedule} : firstProblem? s = none ↔
    (∀ c ∈ s.items, ∃ f, c.tree = .ok f) ∧ s.plan.circular = [] := by
  rw [firstProblem?]
  split
  · next e hunread =>
      obtain ⟨c, hc, hfound⟩ := List.exists_of_findSome?_eq_some hunread
      refine iff_of_false (by simp) fun h => ?_
      obtain ⟨f, hf⟩ := h.1 c hc
      simp [hf] at hfound
  · next hunread =>
      rw [List.findSome?_eq_none_iff] at hunread
      have htrees : ∀ c ∈ s.items, ∃ f, c.tree = .ok f := by
        intro c hc
        have hnone := hunread c hc
        cases htree : c.tree with
        | ok f => exact ⟨f, rfl⟩
        | error e => simp [htree] at hnone
      cases s.plan.circular with
      | nil => simpa using htrees
      | cons name names => simp

lemma readable_iff : (∀ c ∈ b.computed .strict, ∃ f, c.tree = .ok f) ↔ 
    ∀ i ∈ b.items, ∀ text ∈ i.formula,
      ∃ f, Formula.read .strict (b.items.map (·.name)) text = .ok f := by
  simp only [computed, List.mem_filterMap, Option.map_eq_some_iff]
  constructor
  · intro h i hi text htext
    exact h _ ⟨i, hi, text, htext, rfl⟩
  · rintro h c ⟨i, hi, text, htext, rfl⟩
    exact h i hi text htext

/-- The plan finds no circle if no item is on one. -/
lemma circular_eq_nil : b.lenientSchedule.plan.circular = [] ↔
    ∀ i ∈ b.computedItems, ¬ b.OnCycle i := by
  have hplan : b.lenientSchedule.plan.circular = _ := DependencyGraph.plan_circular
  rw [hplan, names_computed, List.map_map, List.filter_eq_nil_iff, List.forall_mem_map]
  refine forall₂_congr fun i _ => ?_
  simp [onCycle_iff_depends]

/-- The schedule that a strict calculation would follow if it had no problems with it. -/
def strictSchedule (b : Book) : Schedule :=
  ⟨b.computed .strict, (graph (b.computed .strict)).plan ((b.computed .strict).map (·.name))⟩

lemma schedule_strict {s : Schedule} : b.schedule .strict = .ok s ↔
    firstProblem? b.strictSchedule = none ∧ s = b.strictSchedule := by
  cases hproblem : firstProblem? b.strictSchedule with
  | none =>
      have hok : b.schedule .strict = .ok b.strictSchedule := by
        rw [strictSchedule] at hproblem ⊢
        simp only [schedule, hproblem]
      rw [hok, Except.ok.injEq, eq_comm]
      simp
  | some e =>
      have herror : b.schedule .strict = .error e := by
        rw [strictSchedule] at hproblem
        simp only [schedule, hproblem]
      simp [herror]

/-- **The strict schedule** is the lenient one, if every formula can be read and no item is on a
cycle. -/
lemma schedule_strict_iff {s : Schedule} : b.schedule .strict = .ok s ↔
    (∀ i ∈ b.items, ∀ text ∈ i.formula,
      ∃ f, Formula.read .strict (b.items.map (·.name)) text = .ok f) ∧
    (∀ i ∈ b.computedItems, ¬ b.OnCycle i) ∧ s = b.lenientSchedule := by
  rw [schedule_strict, firstProblem?_eq_none, strictSchedule, readable_iff, and_assoc]
  refine and_congr_right fun hreadable => ?_
  rw [computed_strict hreadable, ← circular_eq_nil]
  exact Iff.rfl

end Book

/-! ## Runs -/

namespace ComputedItem

variable {c : ComputedItem} {b : Bindings} {known known' : String → Prop}

/-- Whoever knows the scores of these names can evaluate the item. -/
structure Supplied (known : String → Prop) (c : ComputedItem) : Prop where
  tree : ∃ f, c.tree = .ok f
  names : ∀ n, c.Reads n → known n
  functions : ∀ f, c.tree = .ok f → ∀ g ∈ f.functions, Formula.isRegistered g = true

lemma exists_evaluate_strict :
    (∃ x, c.evaluate .strict b = .ok x) ↔ c.Supplied fun n => (b.get? n).isSome = true := by
  rw [evaluate, Except.exists_bind_eq_ok]
  constructor
  · rintro ⟨f, hf, hx⟩
    obtain ⟨hnames, hfunctions⟩ := (Formula.exists_evaluate_strict f).mp hx
    refine ⟨⟨f, hf⟩, ?_, ?_⟩
    · rintro n ⟨f', hf', hn⟩
      obtain rfl : f = f' := Except.ok.inj (hf.symm.trans hf')
      exact hnames n (Formula.mem_references.mp hn)
    · intro f' hf'
      obtain rfl : f = f' := Except.ok.inj (hf.symm.trans hf')
      exact hfunctions
  · rintro ⟨⟨f, hf⟩, hnames, hfunctions⟩
    refine ⟨f, hf, (Formula.exists_evaluate_strict f).mpr ⟨fun n hn => ?_, hfunctions f hf⟩⟩
    exact hnames n ⟨f, hf, Formula.mem_references.mpr hn⟩

lemma evaluate_lenient_of_strict {x : Float} (h : c.evaluate .strict b = .ok x) :
    c.evaluate .lenient b = .ok x := by
  rw [evaluate] at h ⊢
  obtain ⟨f, hf, hx⟩ := Except.bind_eq_ok.mp h
  rw [hf]
  exact f.evaluate_lenient_of_strict hx

lemma supplied_congr (h : ∀ n, c.Reads n → (known n ↔ known' n)) :
    c.Supplied known ↔ c.Supplied known' :=
  ⟨fun hc => { hc with names := fun n hn => (h n hn).mp (hc.names n hn) },
    fun hc => { hc with names := fun n hn => (h n hn).mpr (hc.names n hn) }⟩

end ComputedItem

namespace Schedule

/-- The names that have a score by the end: those bound already and those still to be calculated. -/
def Known (b : Bindings) (items : List ComputedItem) (n : String) : Prop :=
  (b.get? n).isSome = true ∨ ∃ c ∈ items, normalize c.name = n

lemma step_strict {p q : Progress} {c : ComputedItem} : step .strict p c = .ok q ↔
    ∃ x, c.evaluate .strict p.bindings = .ok x ∧
      q = ⟨p.bindings.bind c.name x, p.evaluated + 1, p.zeroed⟩ := by
  rw [step.eq_def]
  cases c.evaluate .strict p.bindings <;> simp [eq_comm]

/-- After a step, the same names are known as before. -/
lemma known_step {b : Bindings} {c : ComputedItem} {rest : List ComputedItem} {x : Float}
    {n : String} (hn : normalize n = n) :
    Known (b.bind c.name x) rest n ↔ Known b (c :: rest) n := by
  rw [Known, Known, Bindings.get?_bind, hn]
  by_cases hc : normalize c.name = n
  · simp [hc]
  · simp [hc]

/-- **A strict run succeeds** exactly if every item can be evaluated with what is known at the start
and what the run itself finds out, in an order in which no item reads itself or a later one. -/
theorem exists_foldlM_step_strict : ∀ {items : List ComputedItem} {p : Progress},
    (∀ c ∈ items, ∀ n, c.Reads n → normalize n = n) →
    (∀ c ∈ items, ¬ c.Reads (normalize c.name)) →
    (items.Pairwise fun c d => ¬ c.Reads (normalize d.name)) →
    ((∃ q, items.foldlM (step .strict) p = .ok q) ↔
      ∀ c ∈ items, c.Supplied (Known p.bindings items))
  | [], p, _, _, _ => by simp [pure, Except.pure]
  | c :: rest, p, hplain, hself, hlater => by
      obtain ⟨hplain_c, hplain⟩ := List.forall_mem_cons.mp hplain
      obtain ⟨hself_c, hself⟩ := List.forall_mem_cons.mp hself
      obtain ⟨hlater_c, hlater⟩ := List.pairwise_cons.mp hlater
      -- what the first item reads is bound already
      have hfirst : (∃ x, c.evaluate .strict p.bindings = .ok x) ↔
          c.Supplied (Known p.bindings (c :: rest)) := by
        rw [ComputedItem.exists_evaluate_strict]
        refine ComputedItem.supplied_congr fun n hn => ⟨Or.inl, fun hknown => ?_⟩
        rcases hknown with hbound | ⟨d, hd, rfl⟩
        · exact hbound
        · rcases List.mem_cons.mp hd with rfl | hd
          · exact absurd hn hself_c
          · exact absurd hn (hlater_c d hd)
      rw [List.foldlM_cons, Except.exists_bind_eq_ok, List.forall_mem_cons, ← hfirst]
      have hrest : ∀ x, (∃ q, rest.foldlM (step .strict)
          ⟨p.bindings.bind c.name x, p.evaluated + 1, p.zeroed⟩ = .ok q) ↔
            ∀ d ∈ rest, d.Supplied (Known p.bindings (c :: rest)) := by
        intro x
        rw [exists_foldlM_step_strict hplain hself hlater]
        exact forall₂_congr fun d hd =>
          ComputedItem.supplied_congr fun n hn => known_step (hplain d hd n hn)
      constructor
      · rintro ⟨q, hq, hrun⟩
        obtain ⟨x, hx, rfl⟩ := step_strict.mp hq
        exact ⟨⟨x, hx⟩, (hrest x).mp hrun⟩
      · rintro ⟨⟨x, hx⟩, hsupplied⟩
        exact ⟨_, step_strict.mpr ⟨x, hx, rfl⟩, (hrest x).mpr hsupplied⟩

/-- **A strict run does what a lenient one does**, and nothing fails on the way. -/
theorem foldlM_lenient_of_strict : ∀ {items : List ComputedItem} {p q : Progress},
    items.foldlM (step .strict) p = .ok q →
      items.foldlM (step .lenient) p = .ok q ∧ q.zeroed = p.zeroed
  | [], p, q, h => by
      cases h
      exact ⟨rfl, rfl⟩
  | c :: rest, p, q, h => by
      rw [List.foldlM_cons] at h ⊢
      obtain ⟨r, hr, hrest⟩ := Except.bind_eq_ok.mp h
      obtain ⟨x, hx, rfl⟩ := step_strict.mp hr
      obtain ⟨hlenient, hzeroed⟩ := foldlM_lenient_of_strict hrest
      have hstep : step .lenient p c =
          .ok ⟨p.bindings.bind c.name x, p.evaluated + 1, p.zeroed⟩ := by
        rw [step.eq_def, ComputedItem.evaluate_lenient_of_strict hx]
      rw [hstep]
      exact ⟨hlenient, hzeroed⟩

end Schedule

/-! ## Students -/

namespace Book

variable {b : Book} {s : Student}

/-- The names that are known in a run are those that have a score. -/
lemma Consistent.known_iff (h : b.Consistent) (hacyclic : ∀ i ∈ b.computedItems, ¬ b.OnCycle i)
    {n : String} (hn : normalize n = n) :
    Schedule.Known (.ofList (b.scores s)) b.lenientSchedule.ordered n ↔ b.Scored s n := by
  rw [Schedule.Known, Scored, or_comm]
  refine or_congr ?_ ?_
  · constructor
    · rintro ⟨c, hc, rfl⟩
      obtain ⟨i, hi, heq⟩ := exists_computedItem (h.mem_ordered.mp hc).1
      exact ⟨i, hi, by rw [heq]⟩
    · rintro ⟨i, hi, rfl⟩
      obtain ⟨c, hc, heq⟩ := exists_computed hi
      refine ⟨c, h.mem_ordered.mpr ⟨hc, fun hcycle => hacyclic i hi ?_⟩, by rw [heq]⟩
      rwa [onCycle_iff_depends, ← heq]
  · rw [Option.isSome_iff_exists]
    constructor
    · rintro ⟨x, hx⟩
      obtain ⟨m, hm, hmn⟩ := (Bindings.get?_ofList_eq_some h.nodup_scores).mp hx
      obtain ⟨i, hi, rfl, hmark⟩ := mem_scores.mp hm
      exact ⟨i, hi, hmn.trans hn, by rw [hmark, Option.isSome_some]⟩
    · rintro ⟨i, hi, hname, hmark⟩
      obtain ⟨x, hx⟩ := Option.isSome_iff_exists.mp hmark
      refine ⟨x, (Bindings.get?_ofList_eq_some h.nodup_scores).mpr ⟨i.name, ?_, ?_⟩⟩
      · exact mem_scores.mpr ⟨i, hi, rfl, hx⟩
      · rw [hname, hn]

/-- Where all formulas can be read strictly, the trees of a book are those of strict readings. -/
lemma exists_read_of_tree? (h : ∀ i ∈ b.items, ∀ text ∈ i.formula,
    ∃ f, Formula.read .strict (b.items.map (·.name)) text = .ok f) {i : Item} (hi : i ∈ b.items)
    {t : Except FormulaError Formula} (ht : b.tree? i = some t) :
    ∃ f text, Formula.read .strict (b.items.map (·.name)) text = .ok f ∧ t = .ok f := by
  obtain ⟨text, htext, rfl⟩ := Option.map_eq_some_iff.mp ht
  obtain ⟨f, hf⟩ := h i hi text htext
  exact ⟨f, text, hf, Formula.read_lenient_of_strict hf⟩

/-- Off the cycles, every computed item is calculated. -/
lemma Consistent.mem_ordered_of_tree? (h : b.Consistent)
    (hacyclic : ∀ i ∈ b.computedItems, ¬ b.OnCycle i) {i : Item} (hi : i ∈ b.items)
    {t : Except FormulaError Formula} (ht : b.tree? i = some t) :
    ⟨i.name, t⟩ ∈ b.lenientSchedule.ordered := by
  refine h.mem_ordered.mpr ⟨mem_computed.mpr ⟨i, hi, rfl, ht⟩, fun hcycle => ?_⟩
  exact hacyclic i (mem_computedItems_of_tree? hi ht) (onCycle_iff_depends.mpr hcycle)

/-- **A strict run for a student succeeds** exactly if every function is known and every name has a
score. -/
lemma Consistent.exists_run_strict (h : b.Consistent)
    (hreadable : ∀ i ∈ b.items, ∀ text ∈ i.formula,
      ∃ f, Formula.read .strict (b.items.map (·.name)) text = .ok f)
    (hacyclic : ∀ i ∈ b.computedItems, ¬ b.OnCycle i) :
    (∃ p, b.lenientSchedule.run .strict (.ofList (b.scores s)) = .ok p) ↔
      ∀ i ∈ b.items, ∀ f, b.tree? i = some (.ok f) →
        (∀ g ∈ f.functions, g ∈ ["max", "min", "avg", "mean"]) ∧
          ∀ n ∈ f.references, b.Scored s n := by
  have hstart : b.lenientSchedule.start (.ofList (b.scores s)) = .ofList (b.scores s) := by
    rw [Schedule.start, Schedule.circular, circular_eq_nil.mpr hacyclic]
    rfl
  rw [Schedule.run, Schedule.exists_foldlM_step_strict, hstart]
  · constructor
    · intro hsupplied i hi f hf
      obtain ⟨g, text, hread, heq⟩ := exists_read_of_tree? hreadable hi hf
      obtain rfl := Except.ok.inj heq
      have hc := h.mem_ordered_of_tree? hacyclic hi hf
      obtain ⟨_, hnames, hfunctions⟩ := hsupplied _ hc
      refine ⟨fun g hg => (Formula.isRegistered_of_read hread hg).mp (hfunctions f rfl g hg),
        fun n hn => ?_⟩
      have hreads : ComputedItem.Reads ⟨i.name, .ok f⟩ n := ⟨f, rfl, hn⟩
      have hplain := normalize_of_reads (h.mem_ordered.mp hc).1 hreads
      exact (h.known_iff hacyclic hplain).mp (hnames n hreads)
    · intro hscored c hc
      obtain ⟨hcomputed, _⟩ := h.mem_ordered.mp hc
      obtain ⟨i, hi, _, ht⟩ := mem_computed.mp hcomputed
      obtain ⟨f, text, hread, htree⟩ := exists_read_of_tree? hreadable hi ht
      obtain ⟨hfunctions, hnames⟩ := hscored i hi f (by rw [ht, htree])
      refine ⟨⟨f, htree⟩, fun n hn => ?_, fun f' hf' g hg => ?_⟩
      · rw [h.known_iff hacyclic (normalize_of_reads hcomputed hn)]
        obtain ⟨f', hf', hmem⟩ := hn
        obtain rfl := Except.ok.inj (htree.symm.trans hf')
        exact hnames n hmem
      · obtain rfl := Except.ok.inj (htree.symm.trans hf')
        exact (Formula.isRegistered_of_read hread hg).mpr (hfunctions g hg)
  · exact fun c hc n hn => normalize_of_reads (h.mem_ordered.mp hc).1 hn
  · exact fun c hc => h.not_reads_self hc
  · exact h.pairwise_ordered.imp fun hcd => hcd.2

end Book

/-! ## The roster -/

/-- Each result of a list of calculations is that of the one in its place. -/
lemma mapM_eq_ok {ε α β : Type} {f : α → Except ε β} : ∀ {xs : List α} {ys : List β},
    xs.mapM f = .ok ys ↔ List.Forall₂ (fun x y => f x = .ok y) xs ys
  | [], ys => by simp [pure, Except.pure, List.forall₂_nil_left_iff, eq_comm]
  | x :: xs, ys => by
      simp only [List.mapM_cons, Except.bind_eq_ok, pure, Except.pure, Except.ok.injEq,
        List.forall₂_cons_left_iff, mapM_eq_ok]
      constructor
      · rintro ⟨y, hy, rest, hrest, rfl⟩
        exact ⟨y, rest, hy, hrest, rfl⟩
      · rintro ⟨y, rest, hy, hrest, rfl⟩
        exact ⟨y, hy, rest, hrest, rfl⟩

lemma exists_mapM_eq_ok {ε α β : Type} {f : α → Except ε β} : ∀ {xs : List α},
    (∃ ys, xs.mapM f = .ok ys) ↔ ∀ x ∈ xs, ∃ y, f x = .ok y
  | [] => by simp [pure, Except.pure]
  | x :: xs => by
      simp only [List.mapM_cons, Except.exists_bind_eq_ok, pure, Except.pure, Except.ok.injEq,
        exists_eq', and_true, exists_and_right, List.forall_mem_cons, exists_mapM_eq_ok]

/-- If whatever `f` finds `g` finds as well, so it is for a list. -/
lemma mapM_eq_ok_imp {ε α β : Type} {f g : α → Except ε β} {P : β → Prop} :
    ∀ {xs : List α} {ys : List β}, xs.mapM f = .ok ys →
      (∀ x ∈ xs, ∀ y, f x = .ok y → g x = .ok y ∧ P y) → xs.mapM g = .ok ys ∧ ∀ y ∈ ys, P y
  | [], ys, hf, _ => by
      cases hf
      exact ⟨rfl, by simp⟩
  | x :: xs, ys, hf, h => by
      rw [List.mapM_cons] at hf ⊢
      obtain ⟨hx, hxs⟩ := List.forall_mem_cons.mp h
      obtain ⟨y, hy, hf⟩ := Except.bind_eq_ok.mp hf
      obtain ⟨rest, hrest, hf⟩ := Except.bind_eq_ok.mp hf
      cases hf
      obtain ⟨hg, hP⟩ := mapM_eq_ok_imp hrest hxs
      rw [(hx y hy).1, hg]
      exact ⟨rfl, List.forall_mem_cons.mpr ⟨(hx y hy).2, hP⟩⟩

namespace Book

variable {b : Book} {s : Student}

lemma reportStudent_lenient_of_strict {schedule : Schedule} {r : StudentReport × Tally}
    (h : b.reportStudent schedule .strict s = .ok r) :
    b.reportStudent schedule .lenient s = .ok r ∧ r.2.zeroed = 0 := by
  rw [reportStudent] at h ⊢
  obtain ⟨marks, hmarks, h⟩ := Except.bind_eq_ok.mp h
  obtain ⟨p, hp, hr⟩ := Except.bind_eq_ok.mp h
  obtain ⟨hlenient, hzeroed⟩ := Schedule.foldlM_lenient_of_strict hp
  cases hr
  refine ⟨?_, hzeroed⟩
  exact Except.bind_eq_ok.mpr ⟨marks, hmarks, Except.bind_eq_ok.mpr ⟨p, hlenient, rfl⟩⟩

lemma Consistent.exists_reportStudent (h : b.Consistent) (hs : s ∈ b.students)
    {schedule : Schedule} {mode : Mode} :
    (∃ r, b.reportStudent schedule mode s = .ok r) ↔
      ∃ p, schedule.run mode (.ofList (b.scores s)) = .ok p := by
  simp only [reportStudent, h.bindingsFor hs, Except.exists_bind_eq_ok, Except.ok.injEq,
    exists_eq_left', pure, Except.pure, exists_eq', and_true]

/-- **A strict calculation accepts the clean books**, out of all books that can come about.  What it
reports there is what a lenient calculation reports, and nothing counts as zero in it. -/
theorem calculateAll_strict (hb : b.Reachable) :
    ((∃ r, b.calculateAll .strict = .ok r) ↔ b.Clean) ∧
      ∀ r, b.calculateAll .strict = .ok r →
        b.calculateAll .lenient = .ok r ∧ r.tally.zeroed = 0 ∧ r.tally.circular = 0 := by
  have h := hb.consistent
  constructor
  · simp only [calculateAll, Except.exists_bind_eq_ok, pure, Except.pure, Except.ok.injEq,
      exists_eq', and_true, exists_mapM_eq_ok, schedule_strict_iff]
    constructor
    · rintro ⟨_, ⟨hreadable, hacyclic, rfl⟩, hrun⟩
      exact ⟨hreadable, hacyclic, fun s hs => (h.exists_run_strict hreadable hacyclic).mp
        ((h.exists_reportStudent hs).mp (hrun s hs))⟩
    · rintro ⟨hreadable, hacyclic, hsupplied⟩
      exact ⟨_, ⟨hreadable, hacyclic, rfl⟩, fun s hs => (h.exists_reportStudent hs).mpr
        ((h.exists_run_strict hreadable hacyclic).mpr (hsupplied s hs))⟩
  · intro r hr
    rw [calculateAll] at hr ⊢
    obtain ⟨schedule, hschedule, hr⟩ := Except.bind_eq_ok.mp hr
    obtain ⟨hreadable, hacyclic, rfl⟩ := schedule_strict_iff.mp hschedule
    obtain ⟨reports, hreports, hr⟩ := Except.bind_eq_ok.mp hr
    obtain ⟨hlenient, hzeroed⟩ := mapM_eq_ok_imp hreports
      fun s _ r hr => reportStudent_lenient_of_strict hr
    cases hr
    refine ⟨?_, ?_, ?_⟩
    · exact Except.bind_eq_ok.mpr ⟨_, rfl, Except.bind_eq_ok.mpr ⟨_, hlenient, rfl⟩⟩
    · exact List.foldlRecOn (motive := fun t : Tally => t.zeroed = 0) reports _ rfl
        fun t ht r hr => by rw [Tally.merge, ht, hzeroed r hr]
    · exact List.foldlRecOn (motive := fun t : Tally => t.circular = 0) reports _
        (by rw [circular_eq_nil.mpr hacyclic, List.length_nil]) fun t ht r _ => ht

/-- A book with a mark for everything that its formulas read. -/
def cleanChanges : List Change := [
  .addItem ⟨"Test 1", none, 100, 1, none⟩,
  .addItem ⟨"Total", none, 100, 1, some "MAX(Half, [Test 1] - 5)"⟩,
  .addItem ⟨"Half", none, 100, 1, some "Test 1 / 2"⟩,
  .addStudent ⟨"s", "Sam", .empty⟩,
  .record "s" "Test1" 40]

/-- The book is clean until there is a student without a mark. -/
theorem clean_calculateAll :
    let b := empty.replay cleanChanges
    let b' := empty.replay (cleanChanges ++ [.addStudent ⟨"t", "Tim", .empty⟩])
    b.Clean ∧ ¬ b'.Clean ∧ ∃ r, b.calculateAll .lenient = .ok r ∧ r.tally.zeroed = 0 ∧
      r.tally.circular = 0 := by
  intro b b'
  have hb := calculateAll_strict (b := b) ⟨cleanChanges, rfl⟩
  have hb' := calculateAll_strict (b := b') ⟨cleanChanges ++ [_], rfl⟩
  obtain ⟨r, hr⟩ : ∃ r, b.calculateAll .strict = .ok r := by
    have hok : (b.calculateAll .strict).isOk = true := by decide +kernel
    cases hrun : b.calculateAll .strict with
    | ok r => exact ⟨r, rfl⟩
    | error e =>
        rw [hrun] at hok
        cases hok
  refine ⟨hb.1.mp ⟨r, hr⟩, fun hclean => ?_, r, hb.2 r hr⟩
  obtain ⟨r', hr'⟩ := hb'.1.mpr hclean
  have hfails : (b'.calculateAll .strict).isOk = false := by decide +kernel
  rw [hr'] at hfails
  cases hfails

end Book

end Markbook
