import Markbook.Proofs.Report.Equations

/-!
# What a grade depends on

A computed score is settled by the formulas and the marks that can be reached from its item.  The
equation of an item speaks of nothing but the names that its formula reads, and a plan of
calculation has settled these before, so two calculations that agree on everything within reach
agree on the score, whatever else is in the two books.

* `Book.treeNamed?` — the formula under a name.
* `Book.AgreeOn` — two students, maybe of two books, whose formulas and marks are the same for the
  names of a set that is closed under reading.
* `AgreeOn.get?_finalBindings` — they have the same scores under these names.
* `sameGrade_of_marks_eq` — **a grade depends only on what its formula reads**.
-/

namespace Markbook

namespace Book

variable {b b' : Book} {s s' : Student} {S : String → Prop} {m n : String}

/-! ## Names and items -/

/-- The tree of the computed item with this name. -/
def treeNamed? (b : Book) (n : String) : Option (Except FormulaError Formula) :=
  (b.item? n).bind b.tree?

lemma Consistent.item?_eq_some (h : b.Consistent) {i : Item} :
    b.item? n = some i ↔ i ∈ b.items ∧ normalize i.name = normalize n :=
  find?_key_eq_some h.distinctItems

lemma Consistent.treeNamed?_eq_some (h : b.Consistent) {t : Except FormulaError Formula} :
    b.treeNamed? n = some t ↔
      ∃ i ∈ b.items, normalize i.name = normalize n ∧ b.tree? i = some t := by
  simp only [treeNamed?, Option.bind_eq_some_iff, h.item?_eq_some, and_assoc]

lemma normalize_of_reads_left (h : b.Reads m n) : normalize m = m := by
  obtain ⟨i, _, rfl, _⟩ := h
  exact normalize_normalize i.name

lemma normalize_of_reads_right (h : b.Reads m n) : normalize n = n := by
  obtain ⟨i, _, _, f, htree, hn⟩ := h
  obtain ⟨text, _, hread⟩ := Option.map_eq_some_iff.mp htree
  exact Formula.normalize_of_mem_references hread hn

lemma Consistent.reads_iff (h : b.Consistent) (hm : normalize m = m) :
    b.Reads m n ↔ ∃ f, b.treeNamed? m = some (.ok f) ∧ n ∈ f.references := by
  simp only [Reads, h.treeNamed?_eq_some, hm]
  constructor
  · rintro ⟨i, hi, hname, f, htree, hn⟩
    exact ⟨f, ⟨i, hi, hname, htree⟩, hn⟩
  · rintro ⟨f, ⟨i, hi, hname, htree⟩, hn⟩
    exact ⟨i, hi, hname, f, htree, hn⟩

/-- At the start a name stands for the mark of the item that has this name and takes marks. -/
lemma Consistent.get?_scores (h : b.Consistent) :
    (Bindings.ofList (b.scores s)).get? n =
      ((b.item? n).filter (!·.isComputed)).bind (s.marks.get? ·.name) := by
  refine Option.ext fun x => ?_
  simp only [Bindings.get?_ofList_eq_some h.nodup_scores, mem_scores, Option.bind_eq_some_iff,
    Option.filter_eq_some_iff, h.item?_eq_some, scoredItems, List.mem_filter]
  constructor
  · rintro ⟨_, ⟨i, ⟨hi, hscored⟩, rfl, hx⟩, hname⟩
    exact ⟨i, ⟨⟨hi, hname⟩, hscored⟩, hx⟩
  · rintro ⟨i, ⟨⟨hi, hname⟩, hscored⟩, hx⟩
    exact ⟨i.name, ⟨i, ⟨hi, hscored⟩, rfl, hx⟩, hname⟩

/-! ## The equation of a name -/

lemma Consistent.get?_finalBindings_of_none (h : b.Consistent) (hn : b.treeNamed? n = none) :
    (b.finalBindings s).get? n = (Bindings.ofList (b.scores s)).get? n := by
  refine h.get?_finalBindings_of_ne fun i hi hname => ?_
  obtain ⟨hi, hcomputed⟩ := List.mem_filter.mp hi
  obtain ⟨t, ht⟩ := Option.isSome_iff_exists.mp ((isComputed_eq b i).symm.trans hcomputed)
  rw [h.treeNamed?_eq_some.mpr ⟨i, hi, hname, ht⟩] at hn
  cases hn

lemma Consistent.get?_finalBindings_of_cycle (h : b.Consistent)
    (hn : Relation.TransGen b.Reads n n) : (b.finalBindings s).get? n = some 0 := by
  obtain ⟨_, ⟨i, hi, rfl, f, htree, _⟩, _⟩ := Relation.TransGen.head'_iff.mp hn
  rw [Bindings.get?_congr (normalize_normalize i.name)]
  exact h.get?_finalBindings_of_onCycle (mem_computedItems_of_tree? hi htree) hn

lemma Consistent.get?_finalBindings_of_some (h : b.Consistent) (hplain : normalize n = n)
    {t : Except FormulaError Formula} (ht : b.treeNamed? n = some t)
    (hn : ¬ Relation.TransGen b.Reads n n) :
    (b.finalBindings s).get? n =
      some (orZero (ComputedItem.evaluate ⟨n, t⟩ .lenient (b.finalBindings s))) := by
  obtain ⟨i, hi, hname, htree⟩ := h.treeNamed?_eq_some.mp ht
  rw [← Bindings.get?_congr hname]
  refine h.get?_finalBindings_of_tree hi htree ?_
  rwa [OnCycle, hname, hplain]

/-! ## Two calculations -/

/-- A way along one relation is a way along another if the two agree on a set that is never left. -/
lemma transGen_within {r r' : String → String → Prop}
    (hstep : ∀ m n, S m → r m n → S n ∧ r' m n) (hm : S m) (h : Relation.TransGen r m n) :
    S n ∧ Relation.TransGen r' m n := by
  induction h with
  | single hmn => exact ⟨(hstep _ _ hm hmn).1, .single (hstep _ _ hm hmn).2⟩
  | tail _ hkn ih => exact ⟨(hstep _ _ ih.1 hkn).1, ih.2.tail (hstep _ _ ih.1 hkn).2⟩

/-- The formulas and the marks of two students are the same for the names in `S`, and formulas
under names in `S` read names in `S`. -/
structure AgreeOn (b b' : Book) (s s' : Student) (S : String → Prop) : Prop where
  closed : ∀ m n, S m → b.Reads m n → S n
  trees : ∀ n, S n → b.treeNamed? n = b'.treeNamed? n
  marks : ∀ n, S n → b.treeNamed? n = none →
    (Bindings.ofList (b.scores s)).get? n = (Bindings.ofList (b'.scores s')).get? n

namespace AgreeOn

lemma reads_iff (hab : AgreeOn b b' s s' S) (h : b.Consistent) (h' : b'.Consistent) (hm : S m) :
    b.Reads m n ↔ b'.Reads m n := by
  by_cases hplain : normalize m = m
  · rw [h.reads_iff hplain, h'.reads_iff hplain, hab.trees m hm]
  · exact iff_of_false (fun hread => hplain (normalize_of_reads_left hread))
      fun hread => hplain (normalize_of_reads_left hread)

/-- What can be reached within the set can be reached in both books. -/
lemma transGen_iff (hab : AgreeOn b b' s s' S) (h : b.Consistent) (h' : b'.Consistent) (hm : S m) :
    Relation.TransGen b.Reads m n ↔ Relation.TransGen b'.Reads m n := by
  have hstep : ∀ m n, S m → b.Reads m n → S n ∧ b'.Reads m n := fun m n hm hread =>
    ⟨hab.closed m n hm hread, (hab.reads_iff h h' hm).mp hread⟩
  have hstep' : ∀ m n, S m → b'.Reads m n → S n ∧ b.Reads m n := fun m n hm hread' =>
    have hread := (hab.reads_iff h h' hm).mpr hread'
    ⟨hab.closed m n hm hread, hread⟩
  exact ⟨fun hread => (transGen_within hstep hm hread).2,
    fun hread => (transGen_within hstep' hm hread).2⟩

/-- **Calculations that agree on what can be reached agree on the scores.**  The induction is along
the plan of the first book; a cycle within reach is a cycle in both books. -/
theorem get?_finalBindings (hab : AgreeOn b b' s s' S) (h : b.Consistent) (h' : b'.Consistent)
    (hn : S n) (hplain : normalize n = n) :
    (b.finalBindings s).get? n = (b'.finalBindings s').get? n := by
  revert hn hplain
  refine @DependencyGraph.plan_induction (graph (b.computed .lenient))
    ((b.computed .lenient).map (·.name))
    (fun n => S n → normalize n = n →
      (b.finalBindings s).get? n = (b'.finalBindings s').get? n) (fun n ih hn hplain => ?_) n
  rw [reads_graph_computed, DependencyGraph.mem_plan_order, DependencyGraph.Depends,
    reads_graph_computed] at ih
  cases ht : b.treeNamed? n with
  | none =>
      have ht' := hab.trees n hn ▸ ht
      rw [h.get?_finalBindings_of_none ht, h'.get?_finalBindings_of_none ht', hab.marks n hn ht]
  | some t =>
      have ht' := hab.trees n hn ▸ ht
      by_cases hcycle : Relation.TransGen b.Reads n n
      · have hcycle' := (hab.transGen_iff h h' hn).mp hcycle
        rw [h.get?_finalBindings_of_cycle hcycle, h'.get?_finalBindings_of_cycle hcycle']
      · have hcycle' := (hab.transGen_iff h h' hn).not.mp hcycle
        obtain ⟨i, hi, hname, htree⟩ := h.treeNamed?_eq_some.mp ht
        have hlisted : n ∈ ((b.computed .lenient).map (·.name)).map normalize := by
          rw [List.map_map]
          exact List.mem_map.mpr
            ⟨⟨i.name, t⟩, mem_computed.mpr ⟨i, hi, rfl, htree⟩, hname.trans hplain⟩
        have hvalue : ComputedItem.evaluate ⟨n, t⟩ .lenient (b.finalBindings s) =
            ComputedItem.evaluate ⟨n, t⟩ .lenient (b'.finalBindings s') := by
          refine ComputedItem.evaluate_congr fun k hk => ?_
          obtain ⟨f, hf, hmem⟩ := hk
          have hread : b.Reads n k :=
            (h.reads_iff hplain).mpr ⟨f, ht.trans (congrArg some hf), hmem⟩
          exact ih ⟨hlisted, hcycle⟩ k hread (hab.closed n k hn hread)
            (normalize_of_reads_right hread)
        rw [h.get?_finalBindings_of_some hplain ht hcycle,
          h'.get?_finalBindings_of_some hplain ht' hcycle', hvalue]

/-- An item of both books has the same result in both. -/
lemma itemResult_eq (hab : AgreeOn b b' s s' S) (h : b.Consistent) (h' : b'.Consistent) {i : Item}
    (hi : i ∈ b.items) (hi' : i ∈ b'.items) (hS : S (normalize i.name)) :
    itemResult s (b.finalBindings s) i = itemResult s' (b'.finalBindings s') i := by
  have hscore : (if i.isComputed then (b.finalBindings s).get? i.name else s.marks.get? i.name) =
      if i.isComputed then (b'.finalBindings s').get? i.name else s'.marks.get? i.name := by
    split_ifs with hcomputed
    · have hsame := hab.get?_finalBindings h h' hS (normalize_normalize _)
      rwa [Bindings.get?_congr (normalize_normalize _),
        Bindings.get?_congr (normalize_normalize _)] at hsame
    · have hitem : b.item? (normalize i.name) = some i :=
        h.item?_eq_some.mpr ⟨hi, (normalize_normalize _).symm⟩
      have hitem' : b'.item? (normalize i.name) = some i :=
        h'.item?_eq_some.mpr ⟨hi', (normalize_normalize _).symm⟩
      have htree : b.tree? i = none := by
        rw [isComputed_eq b, Bool.not_eq_true, Option.isSome_eq_false_iff] at hcomputed
        exact Option.isNone_iff_eq_none.mp hcomputed
      have hmarks := hab.marks _ hS (by rw [treeNamed?, hitem, Option.bind_some, htree])
      simpa [h.get?_scores, h'.get?_scores, hitem, hitem', hcomputed, Option.filter_some]
        using hmarks
  simp only [itemResult, hscore]

end AgreeOn

/-! ## Reports -/

lemma AgreeOn.sameGrade (hab : AgreeOn b b' s s' S) (h : b.Consistent) (h' : b'.Consistent)
    {i : Item} (hi : i ∈ b.items) (hi' : i ∈ b'.items) (hS : S (normalize i.name)) :
    (b.lenientReport s).SameGrade (b'.lenientReport s') i.name := by
  have hsame := hab.itemResult_eq h h' hi hi' hS
  simp only [lenientReport, StudentReport.SameGrade, StudentReport.score?,
    StudentReport.percentage?, h.item?_report hi, h'.item?_report hi', hsame, and_self]

/-! ## Changes of marks -/

lemma items_setScore? {id item : String} {x : Float} (h : b.setScore? id item x = some b') :
    b'.items = b.items := by
  obtain ⟨_, _, rfl⟩ := Option.map_eq_some_iff.mp h
  rfl

/-- Entering a mark leaves the items alone, whether it is accepted or not. -/
lemma items_applyOrKeep {c : Change} (hc : c.entersMark = true) :
    (b.applyOrKeep c).items = b.items := by
  rw [applyOrKeep]
  cases happly : b.apply c with
  | error e => rfl
  | ok b' =>
      cases c with
      | record id item x =>
          obtain ⟨_, _, _, _, rfl⟩ := record_eq_ok.mp happly
          rfl
      | setScore id item x =>
          cases happly
          cases hset : b.setScore? id item x with
          | none => rfl
          | some b' => exact items_setScore? hset
      | _ => cases hc

lemma items_replay {changes : List Change} (h : ∀ c ∈ changes, c.entersMark = true) :
    (b.replay changes).items = b.items :=
  List.foldlRecOn (motive := fun b' : Book => b'.items = b.items) changes _ rfl
    fun _ hb c hc => (items_applyOrKeep (h c hc)).trans hb

/-! ## What a grade depends on -/

/-- The names within reach of a plain name are plain. -/
lemma normalize_of_reflTransGen (hm : normalize m = m) (h : Relation.ReflTransGen b.Reads m n) :
    normalize n = n := by
  cases h with
  | refl => exact hm
  | tail _ hread => exact normalize_of_reads_right hread

/-- Two students of books with the same items agree on what can be reached from a name if they have
the same marks there. -/
lemma Consistent.agreeOn_reachable (h : b.Consistent) (h' : b'.Consistent)
    (hitems : b'.items = b.items) (hm : normalize m = m)
    (hmarks : ∀ j ∈ b.scoredItems, Relation.ReflTransGen b.Reads m (normalize j.name) →
      s.marks.get? j.name = s'.marks.get? j.name) :
    AgreeOn b b' s s' (Relation.ReflTransGen b.Reads m) where
  closed _ _ hreach hread := hreach.tail hread
  trees n _ := by
    have htree : b'.tree? = b.tree? := by
      funext i
      rw [tree?, tree?, hitems]
    rw [treeNamed?, treeNamed?, htree, Book.item?, Book.item?, hitems]
  marks n hreach _ := by
    have hitem : b'.item? n = b.item? n := by rw [Book.item?, Book.item?, hitems]
    rw [h.get?_scores, h'.get?_scores, hitem]
    cases hj : b.item? n with
    | none => rfl
    | some j =>
        obtain ⟨hmem, hname⟩ := h.item?_eq_some.mp hj
        rw [normalize_of_reflTransGen hm hreach] at hname
        cases hcomputed : j.isComputed with
        | true => simp [Option.filter_some, hcomputed]
        | false =>
            have hmark :=
              hmarks j (List.mem_filter.mpr ⟨hmem, by simp [hcomputed]⟩) (hname ▸ hreach)
            simpa [Option.filter_some, hcomputed] using hmark

/-- **A grade depends only on what its formula reads.**  In every book that can come about, take a
student, and a student after any number of marks have been entered: the same one or another, and as
few changes as none at all.  If both have the same marks for the items that can be reached from an
item, the lenient calculation gives both the same score and percentage for it, whatever their other
marks are. -/
theorem sameGrade_of_marks_eq (hb : b.Reachable) {changes : List Change}
    (hchanges : ∀ c ∈ changes, c.entersMark = true) (hs : s ∈ b.students)
    (hs' : s' ∈ (b.replay changes).students) {i : Item} (hi : i ∈ b.items)
    (hmarks : ∀ j ∈ b.scoredItems,
      Relation.ReflTransGen b.Reads (normalize i.name) (normalize j.name) →
        s.marks.get? j.name = s'.marks.get? j.name) :
    ∃ r r', b.calculateStudent .lenient s.id = .ok r ∧
      (b.replay changes).calculateStudent .lenient s'.id = .ok r' ∧ r.SameGrade r' i.name := by
  have h := hb.consistent
  have h' : (b.replay changes).Consistent := by
    obtain ⟨earlier, rfl⟩ := hb
    exact Reachable.consistent ⟨earlier ++ changes, List.foldl_append⟩
  have hitems := items_replay (b := b) hchanges
  have hab := h.agreeOn_reachable h' hitems (normalize_normalize _) hmarks
  exact ⟨_, _, h.calculateStudent_eq hs, h'.calculateStudent_eq hs',
    hab.sameGrade h h' hi (hitems ▸ hi) .refl⟩

/-- What can be reached is found by searching the graph. -/
instance : Decidable (Relation.ReflTransGen b.Reads m n) :=
  decidable_of_iff (n = m ∨ (graph (b.computed .lenient)).Depends m n) <| by
    rw [DependencyGraph.Depends, reads_graph_computed, Relation.reflTransGen_iff_eq_or_transGen]

/-- A book in which `Best` can reach the first test but not the second. -/
def twoTests : List Change := [
  .addItem ⟨"Test 1", none, 100, 1, none⟩,
  .addItem ⟨"Test 2", none, 50, 1, none⟩,
  .addItem ⟨"Best", none, 40, 1, some "max(Half + Loop, 5)"⟩,
  .addItem ⟨"Half", none, 100, 1, some "[Test 1] / 2"⟩,
  .addItem ⟨"Loop", none, 100, 1, some "Loop + Half"⟩,
  .addItem ⟨"Total", none, 100, 1, some "Best + Test 2"⟩,
  .addStudent ⟨"s", "Sam", .empty⟩,
  .addStudent ⟨"t", "Tim", .empty⟩,
  .record "s" "Test 1" 60,
  .record "t" "Test 1" 60]

/-- Two students with the same first test have the same best test, whatever their second is. -/
theorem sameGrade_best :
    let b := empty.replay twoTests
    let later := [Change.record "t" "Test 2" 45]
    b.Reachable ∧ (∀ c ∈ later, c.entersMark = true) ∧
      ∃ s ∈ b.students, ∃ s' ∈ (b.replay later).students, ∃ i ∈ b.items,
        s.id = "s" ∧ s'.id = "t" ∧ i.name = "Best" ∧
        s.marks.get? "Test 2" ≠ s'.marks.get? "Test 2" ∧
        (∀ j ∈ b.scoredItems,
          Relation.ReflTransGen b.Reads (normalize i.name) (normalize j.name) →
            s.marks.get? j.name = s'.marks.get? j.name) ∧
        ∃ r r', b.calculateStudent .lenient s.id = .ok r ∧
          (b.replay later).calculateStudent .lenient s'.id = .ok r' ∧
          r.SameGrade r' i.name := by
  intro b later
  have hb : b.Reachable := ⟨twoTests, rfl⟩
  have hlater : ∀ c ∈ later, c.entersMark = true := by decide
  have hfound : ∃ s ∈ b.students, ∃ s' ∈ (b.replay later).students, ∃ i ∈ b.items,
      s.id = "s" ∧ s'.id = "t" ∧ i.name = "Best" ∧
      s.marks.get? "Test 2" ≠ s'.marks.get? "Test 2" ∧
      ∀ j ∈ b.scoredItems, Relation.ReflTransGen b.Reads (normalize i.name) (normalize j.name) →
        s.marks.get? j.name = s'.marks.get? j.name := by decide +kernel
  obtain ⟨s, hs, s', hs', i, hi, hsid, hsid', hname, hne, hmarks⟩ := hfound
  exact ⟨hb, hlater, s, hs, s', hs', i, hi, hsid, hsid', hname, hne, hmarks,
    sameGrade_of_marks_eq hb hlater hs hs' hi hmarks⟩

end Book

end Markbook
