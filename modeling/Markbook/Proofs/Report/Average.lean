import Markbook.Proofs.Decimal.Sum
import Markbook.Proofs.Report.Table

/-!
# What counts towards an average

The average of a category and the overall grade are means of the same kind: of the values that some
things with a weight have, if they have one.  Such a mean is made of the things that have a value
and a positive weight, and of nothing else; where there is one of them at least, there is a mean, as
no sum of positive weights vanishes.

The calculation pairs items with their results by position, drops those without a finite percentage
and sorts the rest by category.  Items have names of their own, so all this comes to looking the
percentages up in the report.

* `weighed` — the values of things that have one, with their weights.
* `weightedMean_weighed_congr`, `isSome_weightedMean_weighed` — what their mean is made of.
* `average?_eq`, `overall_eq` — the averages of a report.
* `averages_of_contributions` — **averages depend on exactly the items that contribute**.
-/

namespace Markbook

/-! ## Means -/

/-- Adding positive weights to a positive one, and whatever else is summed up beside them. -/
lemma pos_foldl_weights : ∀ {values : List (Float × Float)} {sums : Float × Float},
    (∀ v ∈ values, 0 < v.1) → 0 < sums.2 →
      0 < (values.foldl (fun (total, weights) (weight, value) =>
        (total + weight * value, weights + weight)) sums).2
  | [], _, _, hsums => hsums
  | v :: rest, _, hvalues, hsums => by
      obtain ⟨hv, hrest⟩ := List.forall_mem_cons.mp hvalues
      rw [List.foldl_cons]
      exact pos_foldl_weights hrest (pos_add hsums hv)

/-- **There is a mean if any weight is positive.** -/
theorem isSome_weightedMean {values : List (Float × Float)} :
    (weightedMean values).isSome = true ↔ ∃ v ∈ values, 0 < v.1 := by
  have hcounted : (∃ v ∈ values, 0 < v.1) ↔ values.filter (fun (weight, _) => 0 < weight) ≠ [] := by
    rw [Ne, List.filter_eq_nil_iff]
    simp
  rw [hcounted, weightedMean]
  cases hvalues : values.filter fun (weight, _) => 0 < weight with
  | nil =>
      have hzero : ¬ (0 : Float) < 0.0 := by decide +kernel
      simp [hzero]
  | cons v rest =>
      have hpositive : ∀ v' ∈ v :: rest, 0 < v'.1 := by
        intro v' hv'
        rw [← hvalues] at hv'
        simpa using (List.mem_filter.mp hv').2
      obtain ⟨hv, hrest⟩ := List.forall_mem_cons.mp hpositive
      have hzero : (0.0 : Float) = 0 := by decide +kernel
      have hstart : 0 < ((0.0 + v.1 * v.2, 0.0 + v.1) : Float × Float).2 := by
        rw [hzero]
        exact pos_zero_add hv
      have hweights := pos_foldl_weights hrest hstart
      simp [hweights]

/-- The values of the things that have one, with the weights of these things. -/
def weighed {α : Type} (weight : α → Float) (value? : α → Option Float) (xs : List α) :
    List (Float × Float) :=
  xs.filterMap fun x => (value? x).map (weight x, ·)

section

variable {α : Type} {weight : α → Float} {value? value'? : α → Option Float} {xs : List α}

/-- The mean is the same if the things with a positive weight have the same values. -/
lemma weightedMean_weighed_congr (h : ∀ x ∈ xs, 0 < weight x → value? x = value'? x) :
    weightedMean (weighed weight value? xs) = weightedMean (weighed weight value'? xs) := by
  have hcounted : ∀ value? : α → Option Float,
      (weighed weight value? xs).filter (fun (w, _) => 0 < w) =
        weighed weight value? (xs.filter (0 < weight ·)) := by
    intro value?
    rw [weighed, weighed, List.filter_filterMap, List.filterMap_filter]
    refine List.filterMap_congr fun x _ => ?_
    cases value? x <;> by_cases hx : 0 < weight x <;> simp [hx]
  have hsame : weighed weight value? (xs.filter (0 < weight ·)) =
      weighed weight value'? (xs.filter (0 < weight ·)) := by
    refine List.filterMap_congr fun x hx => ?_
    obtain ⟨hx, hpositive⟩ := List.mem_filter.mp hx
    rw [h x hx (by simpa using hpositive)]
  rw [weightedMean, weightedMean, hcounted, hcounted, hsame]

/-- There is a mean if something with a positive weight has a value. -/
lemma isSome_weightedMean_weighed : (weightedMean (weighed weight value? xs)).isSome = true ↔
    ∃ x ∈ xs, 0 < weight x ∧ (value? x).isSome = true := by
  rw [isSome_weightedMean, weighed]
  simp only [List.mem_filterMap, Option.map_eq_some_iff, Option.isSome_iff_exists]
  constructor
  · rintro ⟨_, ⟨x, hx, y, hy, rfl⟩, hpositive⟩
    exact ⟨x, hx, hpositive, y, hy⟩
  · rintro ⟨x, hx, hpositive, y, hy⟩
    exact ⟨_, ⟨x, hx, y, hy, rfl⟩, hpositive⟩

end

/-! ## The averages of a report -/

/-- The percentage of an item where it is a finite number; any other counts as missing. -/
def StudentReport.finitePercentage? (r : StudentReport) (name : String) : Option Float :=
  (r.percentage? name).filter (·.isFinite)

namespace Book

variable {b : Book} {s : Student} {r r' : StudentReport}

/-- A report that a calculation gives for a book, be it of one student or of the class. -/
def Reports (b : Book) (r : StudentReport) : Prop :=
  (∃ mode id, b.calculateStudent mode id = .ok r) ∨
    ∃ mode c, b.calculateAll mode = .ok c ∧ r ∈ c.students

lemma exists_report_of_reportStudent {schedule : Schedule} {mode : Mode}
    {p : StudentReport × Tally} (h : b.reportStudent schedule mode s = .ok p) :
    ∃ schedule s computed, p.1 = b.report schedule s computed := by
  obtain ⟨marks, _, h⟩ := Except.bind_eq_ok.mp h
  obtain ⟨progress, _, h⟩ := Except.bind_eq_ok.mp h
  cases h
  exact ⟨schedule, s, progress.bindings, rfl⟩

/-- Both kinds of calculation make their reports in the same way. -/
lemma Reports.exists_report (h : b.Reports r) :
    ∃ schedule s computed, r = b.report schedule s computed := by
  rcases h with ⟨mode, id, h⟩ | ⟨mode, c, h, hr⟩
  · rw [calculateStudent] at h
    cases hs : b.student? id with
    | none => simp [hs] at h
    | some s =>
        simp only [hs] at h
        obtain ⟨schedule, _, h⟩ := Except.bind_eq_ok.mp h
        obtain ⟨p, hp, h⟩ := Except.bind_eq_ok.mp h
        cases h
        exact exists_report_of_reportStudent hp
  · obtain ⟨schedule, _, reports, hreports, rfl⟩ := calculateAll_eq_ok.mp h
    obtain ⟨p, hp, rfl⟩ := List.mem_map.mp hr
    exact (mapM_eq_ok_imp hreports fun s _ p hp =>
      ⟨hp, exists_report_of_reportStudent hp⟩).2 p hp

/-- The items that count are those with a finite percentage in the report. -/
lemma Consistent.counted_report (h : b.Consistent) (schedule : Schedule) (computed : Bindings) :
    b.counted (b.items.map (itemResult s computed)) = b.items.filterMap fun i =>
      ((b.report schedule s computed).finitePercentage? i.name).map (i, ·) := by
  have hzip : b.items.zip (b.items.map (itemResult s computed)) =
      b.items.map fun i => (i, itemResult s computed i) := List.map_prod_left_eq_zip.symm
  rw [counted, hzip, List.filterMap_map]
  refine List.filterMap_congr fun i hi => ?_
  rw [StudentReport.finitePercentage?, StudentReport.percentage?, h.item?_report hi]
  rfl

/-- The average of a category is the mean of its items. -/
lemma Consistent.average?_eq (h : b.Consistent) (hr : b.Reports r) {c : Category}
    (hc : c ∈ b.categories) : r.average? c.name =
      weightedMean (weighed Item.weight (r.finitePercentage? ·.name)
        (b.items.filter (·.category == some c.name))) := by
  obtain ⟨schedule, s, computed, rfl⟩ := hr.exists_report
  rw [h.average?_report hc, categoryAverage, h.counted_report schedule, weighed,
    List.filter_filterMap, List.map_filterMap, List.filterMap_filter]
  refine congrArg weightedMean (List.filterMap_congr fun i _ => ?_)
  cases (b.report schedule s computed).finitePercentage? i.name <;>
    by_cases hi : i.category = some c.name <;> simp [hi]

/-- The overall grade is the mean of the categories, or of all items where there are none. -/
lemma Consistent.overall_eq (h : b.Consistent) (hr : b.Reports r) : r.overall =
    if b.categories = [] then
      weightedMean (weighed Item.weight (r.finitePercentage? ·.name) b.items)
    else weightedMean (weighed Category.weight (r.average? ·.name) b.categories) := by
  obtain ⟨schedule, s, computed, rfl⟩ := hr.exists_report
  have hoverall : (b.report schedule s computed).overall =
      (b.averages (b.items.map (itemResult s computed))).2 := rfl
  rw [hoverall, averages]
  by_cases hnone : b.categories = []
  · simp only [hnone, List.isEmpty_nil, if_true]
    rw [h.counted_report schedule, List.map_filterMap, weighed]
    refine congrArg weightedMean (List.filterMap_congr fun i _ => ?_)
    rw [Option.map_map]
    rfl
  · simp only [hnone, List.isEmpty_iff, if_false]
    rw [List.filterMap_map, weighed]
    refine congrArg weightedMean (List.filterMap_congr fun c hc => ?_)
    rw [h.average?_report hc]
    rfl

/-- **Averages depend on exactly the items that contribute.**  In every book that can come about, a
percentage that is no finite number counts as missing.  Two reports that agree on the items of a
category with a positive weight show the same average for it.  If they agree on all such items, in a
book with categories only on those of categories with a positive weight, they show the same overall
grade.  A category has an average if an item of it with a positive weight has a percentage, and
there is an overall grade if a category with a positive weight has an average, or, in a book without
categories, if an item with a positive weight has a percentage; otherwise there is none. -/
theorem averages_of_contributions (hb : b.Reachable) (hr : b.Reports r) (hr' : b.Reports r') :
    (∀ c ∈ b.categories,
      (∀ i ∈ b.items, i.category = some c.name → 0 < i.weight →
        r.finitePercentage? i.name = r'.finitePercentage? i.name) →
      r.average? c.name = r'.average? c.name) ∧
    ((∀ i ∈ b.items, 0 < i.weight →
        (b.categories ≠ [] → ∃ c ∈ b.categories, i.category = some c.name ∧ 0 < c.weight) →
        r.finitePercentage? i.name = r'.finitePercentage? i.name) →
      r.overall = r'.overall) ∧
    (∀ c ∈ b.categories, (r.average? c.name).isSome = true ↔
      ∃ i ∈ b.items, i.category = some c.name ∧ 0 < i.weight ∧
        (r.finitePercentage? i.name).isSome = true) ∧
    (r.overall.isSome = true ↔
      (∃ c ∈ b.categories, 0 < c.weight ∧ (r.average? c.name).isSome = true) ∨
      b.categories = [] ∧
        ∃ i ∈ b.items, 0 < i.weight ∧ (r.finitePercentage? i.name).isSome = true) := by
  have h := hb.consistent
  have haverage : ∀ c ∈ b.categories,
      (∀ i ∈ b.items, i.category = some c.name → 0 < i.weight →
        r.finitePercentage? i.name = r'.finitePercentage? i.name) →
      r.average? c.name = r'.average? c.name := by
    intro c hc hsame
    rw [h.average?_eq hr hc, h.average?_eq hr' hc]
    refine weightedMean_weighed_congr fun i hi hpositive => ?_
    obtain ⟨hi, hcategory⟩ := List.mem_filter.mp hi
    exact hsame i hi (by simpa using hcategory) hpositive
  refine ⟨haverage, fun hsame => ?_, fun c hc => ?_, ?_⟩
  · rw [h.overall_eq hr, h.overall_eq hr']
    by_cases hnone : b.categories = []
    · rw [if_pos hnone, if_pos hnone]
      exact weightedMean_weighed_congr fun i hi hpositive =>
        hsame i hi hpositive fun hsome => absurd hnone hsome
    · rw [if_neg hnone, if_neg hnone]
      exact weightedMean_weighed_congr fun c hc hpositive =>
        haverage c hc fun i hi hcategory hi' =>
          hsame i hi hi' fun _ => ⟨c, hc, hcategory, hpositive⟩
  · rw [h.average?_eq hr hc, isSome_weightedMean_weighed]
    simp only [List.mem_filter, beq_iff_eq, and_assoc]
  · rw [h.overall_eq hr]
    by_cases hnone : b.categories = []
    · rw [if_pos hnone, isSome_weightedMean_weighed]
      simp [hnone]
    · rw [if_neg hnone, isSome_weightedMean_weighed]
      simp [hnone]

/-- A book in which one category does not count, nor does one item of the other. -/
def weightedSession : List Change := [
  .addCategory ⟨"Tests", 60⟩,
  .addCategory ⟨"Extra", 0⟩,
  .addItem ⟨"Test 1", some "Tests", 50, 2, none⟩,
  .addItem ⟨"Test 2", some "Tests", 50, 1, none⟩,
  .addItem ⟨"Draft", some "Tests", 10, 0, none⟩,
  .addItem ⟨"Ratio", some "Tests", 100, 1, some "[Test 1] / Bonus"⟩,
  .addItem ⟨"Bonus", some "Extra", 10, 1, none⟩,
  .addItem ⟨"Club", none, 10, 1, none⟩,
  .addStudent ⟨"s", "Sam", .ofList [("Test 1", 40), ("Draft", 7)]⟩,
  .addStudent ⟨"t", "Tim", .ofList [("Test 1", 40), ("Bonus", -0.0), ("Club", 9)]⟩]

/-- Two students who differ in all that does not count have the same averages. -/
theorem averages_of_tests :
    let b := empty.replay weightedSession
    b.Reachable ∧ ∃ r r', b.Reports r ∧ b.Reports r' ∧
      r.score? "Ratio" ≠ r'.score? "Ratio" ∧ r.percentage? "Draft" ≠ r'.percentage? "Draft" ∧
      r.average? "Tests" = r'.average? "Tests" ∧ (r.average? "Tests").isSome = true ∧
      (r.average? "Extra").isSome = false ∧
      r.overall = r'.overall ∧ r.overall.isSome = true := by
  intro b
  have hb : b.Reachable := ⟨weightedSession, rfl⟩
  have hfound : ∃ s ∈ b.students, ∃ s' ∈ b.students,
      let r := b.lenientReport s
      let r' := b.lenientReport s'
      r.score? "Ratio" ≠ r'.score? "Ratio" ∧ r.percentage? "Draft" ≠ r'.percentage? "Draft" ∧
      (∀ i ∈ b.items, 0 < i.weight →
        (∃ c ∈ b.categories, i.category = some c.name ∧ 0 < c.weight) →
        r.finitePercentage? i.name = r'.finitePercentage? i.name) ∧
      (∃ i ∈ b.items, i.category = some "Tests" ∧ 0 < i.weight ∧
        (r.finitePercentage? i.name).isSome = true) ∧
      ¬ ∃ i ∈ b.items, i.category = some "Extra" ∧ 0 < i.weight ∧
        (r.finitePercentage? i.name).isSome = true := by decide +kernel
  have hcategories : (∃ c ∈ b.categories, c.name = "Tests" ∧ 0 < c.weight) ∧
      ∃ c ∈ b.categories, c.name = "Extra" := by decide +kernel
  obtain ⟨s, hs, s', hs', hratio, hdraft, hsame, htests, hextra⟩ := hfound
  obtain ⟨⟨c, hc, hname, hweight⟩, d, hd, hname'⟩ := hcategories
  have hr : b.Reports (b.lenientReport s) :=
    Or.inl ⟨.lenient, s.id, hb.consistent.calculateStudent_eq hs⟩
  have hr' : b.Reports (b.lenientReport s') :=
    Or.inl ⟨.lenient, s'.id, hb.consistent.calculateStudent_eq hs'⟩
  obtain ⟨haverage, hoverall, hpresent, hpresent'⟩ := averages_of_contributions hb hr hr'
  have hsome : ((b.lenientReport s).average? c.name).isSome = true :=
    (hpresent c hc).mpr (hname ▸ htests)
  refine ⟨hb, _, _, hr, hr', hratio, hdraft, ?_, hname ▸ hsome, ?_, ?_, ?_⟩
  · rw [← hname]
    exact haverage c hc fun i hi hcategory hi' => hsame i hi hi' ⟨c, hc, hcategory, hweight⟩
  · rw [Bool.eq_false_iff, ← hname']
    exact fun hd' => hextra (hname' ▸ (hpresent d hd).mp hd')
  · exact hoverall fun i hi hi' hin => hsame i hi hi' (hin (List.ne_nil_of_mem hc))
  · exact hpresent'.mpr (Or.inl ⟨c, hc, hweight, hsome⟩)

end Book

end Markbook
