import Markbook.Proofs.Report.Tally

/-!
# A class and its students

The calculation of a whole class and that of one student go through the same schedule, but only the
first walks along the roster: the second looks the student up by id.  Both come to the same reports,
as no two students share an id, and what the class counts is what each student counts, added up.

* `calculateStudent_eq_ok`, `calculateAll_eq_ok` — both in terms of the reports of single students.
* `tally_reportStudent` — every student counts the same.
* `Consistent.reports_calculateAll`, `Consistent.calculateAll_lenient` — the reports of a class.
* `calculateAll_by_student` — the class, student by student.
-/

namespace Markbook

namespace Book

variable {b : Book} {s : Student} {mode : Mode}

lemma Consistent.calculateStudent_eq_ok (h : b.Consistent) (hs : s ∈ b.students)
    {r : StudentReport} : b.calculateStudent mode s.id = .ok r ↔
      ∃ schedule, b.schedule mode = .ok schedule ∧
        ∃ t, b.reportStudent schedule mode s = .ok (r, t) := by
  simp only [calculateStudent, h.student? hs, Except.bind_eq_ok, Prod.exists, pure, Except.pure,
    Except.ok.injEq]
  constructor
  · rintro ⟨schedule, hschedule, r, t, hr, rfl⟩
    exact ⟨schedule, hschedule, t, hr⟩
  · rintro ⟨schedule, hschedule, t, hr⟩
    exact ⟨schedule, hschedule, r, t, hr, rfl⟩

lemma calculateAll_eq_ok {c : ClassReport} : b.calculateAll mode = .ok c ↔
    ∃ schedule, b.schedule mode = .ok schedule ∧ ∃ reports,
      b.students.mapM (b.reportStudent schedule mode) = .ok reports ∧
      ⟨reports.map (·.1), reports.foldl (fun t r => t.merge r.2)
        ⟨0, 0, 0, schedule.plan.circular.length⟩⟩ = c := by
  simp only [calculateAll, Except.bind_eq_ok, pure, Except.pure, Except.ok.injEq]

/-- Every student counts every item that is calculated, and the failures among them. -/
lemma tally_reportStudent {schedule : Schedule} {r : StudentReport × Tally}
    (hr : b.reportStudent schedule mode s = .ok r) :
    r.2 = ⟨1, schedule.ordered.length, schedule.ordered.countP (·.isUnread), 0⟩ := by
  obtain ⟨marks, _, hr⟩ := Except.bind_eq_ok.mp hr
  obtain ⟨p, hp, hr⟩ := Except.bind_eq_ok.mp hr
  obtain ⟨hevaluated, hzeroed⟩ := Schedule.run_counts hp
  cases hr
  rw [hevaluated, hzeroed, Nat.zero_add, Nat.zero_add]

/-- The reports of a class are those of its students. -/
lemma Consistent.reports_calculateAll (h : b.Consistent) {c : ClassReport}
    (hc : b.calculateAll mode = .ok c) :
    List.Forall₂ (fun s r => b.calculateStudent mode s.id = .ok r) b.students c.students := by
  obtain ⟨schedule, hschedule, reports, hreports, rfl⟩ := calculateAll_eq_ok.mp hc
  have hroster := (List.forall₂_and_left b.students reports).mpr
    ⟨fun s hs => hs, mapM_eq_ok.mp hreports⟩
  refine List.forall₂_map_right_iff.mpr (hroster.imp fun s r ⟨hs, hr⟩ => ?_)
  exact (h.calculateStudent_eq_ok hs).mpr ⟨schedule, hschedule, r.2, hr⟩

/-- A lenient calculation of a class gives the lenient report of every student. -/
lemma Consistent.calculateAll_lenient (h : b.Consistent) :
    ∃ c, b.calculateAll .lenient = .ok c ∧ c.students = b.students.map b.lenientReport := by
  have heach : ∀ s ∈ b.students, ∃ r, b.reportStudent b.lenientSchedule .lenient s = .ok r := by
    intro s hs
    obtain ⟨p, hrun, _⟩ := b.lenientSchedule.run_lenient (.ofList (b.scores s))
    exact (h.exists_reportStudent hs).mpr ⟨p, hrun⟩
  obtain ⟨reports, hreports⟩ := exists_mapM_eq_ok.mpr heach
  have hc := calculateAll_eq_ok.mpr ⟨_, schedule_lenient b, reports, hreports, rfl⟩
  have hlenient := (List.forall₂_and_left b.students _).mpr
    ⟨fun s hs => h.calculateStudent_eq hs, h.reports_calculateAll hc⟩
  have hsame := List.forall₂_map_left_iff.mpr
    (hlenient.imp fun s r ⟨hs, hr⟩ => Except.ok.inj (hs.symm.trans hr))
  rw [List.forall₂_eq_eq_eq] at hsame
  exact ⟨_, hc, hsame.symm⟩

/-- **A class is the sum of its students**, in every book that can come about.  Its reports are
those of the students, one by one and in the order of the roster.  It succeeds where all of them do,
unless there are none, and a lenient one always does.  Every student counts the computed items off
the cycles, and as failures the formulas that cannot be read. -/
theorem calculateAll_by_student (hb : b.Reachable) (mode : Mode) :
    (∀ c, b.calculateAll mode = .ok c →
      List.Forall₂ (fun s r => b.calculateStudent mode s.id = .ok r) b.students c.students ∧
      let circular := (b.computedItems.filter fun i => b.OnCycle i).length
      let unread := (b.computedItems.filter (b.isUnread mode)).length
      c.tally = {
        students := b.students.length
        evaluated := b.students.length * (b.computedItems.length - circular)
        zeroed := b.students.length * unread
        circular := circular }) ∧
    (b.students ≠ [] → ((∃ c, b.calculateAll mode = .ok c) ↔
      ∀ s ∈ b.students, ∃ r, b.calculateStudent mode s.id = .ok r)) ∧
    ∃ c, b.calculateAll .lenient = .ok c := by
  have h := hb.consistent
  refine ⟨fun c hc => ⟨h.reports_calculateAll hc, ?_⟩, fun hne => ⟨?_, ?_⟩, ?_⟩
  · obtain ⟨schedule, hschedule, reports, hreports, rfl⟩ := calculateAll_eq_ok.mp hc
    obtain ⟨rfl, hunread⟩ := schedule_eq_ok hschedule
    have htally := (mapM_eq_ok_imp hreports fun s _ r hr => ⟨hr, tally_reportStudent hr⟩).2
    rw [foldl_merge _ htally, h.length_ordered, h.countP_isUnread_ordered, length_circular,
      ← (mapM_eq_ok.mp hreports).length_eq, hunread]
    simp
  · rintro ⟨c, hc⟩
    exact exists_mapM_eq_ok.mp ⟨c.students, mapM_eq_ok.mpr (h.reports_calculateAll hc)⟩
  · intro hall
    -- The schedule is the same for every student, so any of them shows that there is one.
    obtain ⟨first, hfirst⟩ := List.exists_mem_of_ne_nil _ hne
    obtain ⟨_, hr⟩ := hall first hfirst
    obtain ⟨schedule, hschedule, _⟩ := (h.calculateStudent_eq_ok hfirst).mp hr
    have heach : ∀ s ∈ b.students, ∃ r, b.reportStudent schedule mode s = .ok r := by
      intro s hs
      obtain ⟨r, hr⟩ := hall s hs
      obtain ⟨schedule', hschedule', t, hr⟩ := (h.calculateStudent_eq_ok hs).mp hr
      obtain rfl := Except.ok.inj (hschedule.symm.trans hschedule')
      exact ⟨_, hr⟩
    obtain ⟨reports, hreports⟩ := exists_mapM_eq_ok.mpr heach
    exact ⟨_, calculateAll_eq_ok.mpr ⟨schedule, hschedule, reports, hreports, rfl⟩⟩
  · obtain ⟨c, hc, _⟩ := h.calculateAll_lenient
    exact ⟨c, hc⟩

/-- A class of two, and a book with an item on a cycle. -/
def pairSession : List Change := [
  .addItem ⟨"Test", none, 100, 1, none⟩,
  .addItem ⟨"Loop", none, 100, 1, some "Loop + Fine"⟩,
  .addItem ⟨"Half", none, 100, 1, some "Fine / 2 + Loop"⟩,
  .addItem ⟨"Fine", none, 100, 1, some "Test + 1"⟩,
  .addStudent ⟨"s1", "Ada", .ofList [("Test", 5)]⟩,
  .addStudent ⟨"s2", "Bob", .ofList [("Test", 7)]⟩]

/-- Two of the three computed items are calculated for each of the two. -/
theorem pair_by_student : let b := empty.replay pairSession
    b.Reachable ∧ ∃ c, b.calculateAll .lenient = .ok c ∧ c.tally = ⟨2, 4, 0, 1⟩ ∧
      List.Forall₂ (fun s r => b.calculateStudent .lenient s.id = .ok r) b.students c.students := by
  intro b
  have hb : b.Reachable := ⟨pairSession, rfl⟩
  obtain ⟨hclass, _, c, hc⟩ := calculateAll_by_student hb .lenient
  obtain ⟨hreports, htally⟩ := hclass c hc
  have hcounts : b.students.length = 2 ∧ b.computedItems.length = 3 ∧
      (b.computedItems.filter fun i => b.OnCycle i).length = 1 ∧
      (b.computedItems.filter (b.isUnread .lenient)).length = 0 := by decide +kernel
  obtain ⟨hstudents, hcomputed, hcircular, hunread⟩ := hcounts
  rw [hstudents, hcomputed, hcircular, hunread] at htally
  exact ⟨hb, c, hc, htally, hreports⟩

end Book

end Markbook
