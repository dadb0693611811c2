import Markbook.Proofs.Book.Marks
import Markbook.Proofs.Report.Dependence

/-!
# Which mark counts

A student may have several marks for one item, under different spellings of its name.  Bindings and
reports show one of them, whatever spelling they are asked for: the mark that is found under the
name that the item has in the book.  A mark is recorded under this very name, so it is the one that
counts from then on.

The marks of the student, on the other hand, are searched for the spelling that they are asked for.
This agrees with the bindings and the report unless the student has different marks for the item.

* `get?_ofList_scores`, `score?_lenientReport` — what bindings and reports show for an item.
* `record_counts` — **a recorded mark is the mark that counts, and nothing else moves**.
* `marks_agree_iff` — **when the marks of a student agree with what is shown**.
* `marks_disagree` — a book in which they do not.
-/

namespace Markbook

/-- A score of a report is found under any spelling. -/
lemma StudentReport.score?_congr {r : StudentReport} {m n : String}
    (h : normalize m = normalize n) : r.score? m = r.score? n := by
  simp only [score?, item?, sameName, h]

namespace Book

variable {b b' : Book} {s : Student} {i : Item} {id n : String} {x : Float}

/-! ## What is shown for an item that takes marks -/

/-- The bindings have the mark that is found under the name of the item in the book. -/
lemma Consistent.get?_ofList_scores (h : b.Consistent) (hi : i ∈ b.scoredItems)
    (hn : normalize n = normalize i.name) :
    (Bindings.ofList (b.scores s)).get? n = s.marks.get? i.name := by
  obtain ⟨hi, hscored⟩ := List.mem_filter.mp hi
  rw [h.get?_scores, h.item?_eq_some.mpr ⟨hi, hn.symm⟩, Option.filter_some, if_pos hscored,
    Option.bind_some]

/-- So does the report. -/
lemma Consistent.score?_lenientReport (h : b.Consistent) (hi : i ∈ b.scoredItems)
    (hn : normalize n = normalize i.name) :
    (b.lenientReport s).score? n = s.marks.get? i.name := by
  obtain ⟨hi, hscored⟩ := List.mem_filter.mp hi
  rw [StudentReport.score?_congr hn, lenientReport, h.score?_report hi, itemResult,
    if_neg (by simpa using hscored)]

/-! ## Changing one student -/

section

variable {change : Student → Student} {id' : String}

lemma student?_modifyStudent (hchange : ∀ s, (change s).id = s.id) :
    (b.modifyStudent id change).student? id' =
      (b.student? id').map fun s => if s.id == id then change s else s := by
  have hkey : ((fun s : Student => s.id == id') ∘ fun s => if s.id == id then change s else s) =
      fun s => s.id == id' := by
    funext s
    simp only [Function.comp_apply]
    split_ifs <;> simp [hchange]
  rw [student?, modifyStudent, List.find?_map, hkey, student?]

/-- A student with another id is found as before. -/
lemma student?_modifyStudent_of_ne (hchange : ∀ s, (change s).id = s.id) (hid : id' ≠ id) :
    (b.modifyStudent id change).student? id' = b.student? id' := by
  rw [student?_modifyStudent hchange]
  cases hs : b.student? id' with
  | none => rfl
  | some s =>
      simp [id_of_student? hs, hid]

lemma bindingsFor_modifyStudent_of_ne (hchange : ∀ s, (change s).id = s.id) (hid : id' ≠ id) :
    (b.modifyStudent id change).bindingsFor id' = b.bindingsFor id' := by
  rw [bindingsFor, bindingsFor, student?_modifyStudent_of_ne hchange hid]
  rfl

/-- The report of another student does not change, nor does the reason why there is none. -/
lemma calculateStudent_modifyStudent_of_ne (hchange : ∀ s, (change s).id = s.id) (hid : id' ≠ id)
    (mode : Mode) :
    (b.modifyStudent id change).calculateStudent mode id' = b.calculateStudent mode id' := by
  rw [calculateStudent, calculateStudent, student?_modifyStudent_of_ne hchange hid]
  cases hs : b.student? id' with
  | none => rfl
  | some s =>
      have hreport : ∀ schedule, (b.modifyStudent id change).reportStudent schedule mode s =
          b.reportStudent schedule mode s := by
        intro schedule
        rw [reportStudent, reportStudent, id_of_student? hs,
          bindingsFor_modifyStudent_of_ne hchange hid]
        rfl
      simp only [hreport]
      rfl

end

/-! ## Recording a mark -/

/-- **A recorded mark is the mark that counts, and nothing else moves.**  Let a mark be recorded for
a student in any book that can come about, with whatever marks under whatever spellings.  From then
on the bindings and the lenient report of the student show this mark under every spelling of the
name; the bindings of other names and the scores of other items that take marks are what they were;
and for every other id the bindings and the report, lenient or strict, are what they were. -/
theorem record_counts (hb : b.Reachable) (hrecord : b.record id n x = .ok b') :
    (∃ marks marks' r r', b.bindingsFor id = .ok marks ∧ b'.bindingsFor id = .ok marks' ∧
      b.calculateStudent .lenient id = .ok r ∧ b'.calculateStudent .lenient id = .ok r' ∧
      (∀ m, normalize m = normalize n → marks'.get? m = some x ∧ r'.score? m = some x) ∧
      (∀ m, normalize m ≠ normalize n → marks'.get? m = marks.get? m) ∧
      ∀ i ∈ b.scoredItems, normalize i.name ≠ normalize n →
        ∀ m, normalize m = normalize i.name → r'.score? m = r.score? m) ∧
    ∀ id', id' ≠ id → b'.bindingsFor id' = b.bindingsFor id' ∧
      ∀ mode, b'.calculateStudent mode id' = b.calculateStudent mode id' := by
  have h := hb.consistent
  have h' := h.record hrecord
  obtain ⟨found, hfound, hscored, hid, rfl⟩ := record_eq_ok.mp hrecord
  set change : Student → Student := fun s => { s with marks := s.marks.set found.name x }
  have hchange : ∀ s, (change s).id = s.id := fun _ => rfl
  refine ⟨?_, fun id' hne => ⟨bindingsFor_modifyStudent_of_ne hchange hne,
    calculateStudent_modifyStudent_of_ne hchange hne⟩⟩
  obtain ⟨s, hs⟩ := Option.isSome_iff_exists.mp hid
  obtain rfl := id_of_student? hs
  have hmem : s ∈ b.students := List.mem_of_find?_eq_some hs
  have hmem' : change s ∈ (b.modifyStudent s.id change).students :=
    List.mem_map.mpr ⟨s, hmem, by simp⟩
  obtain ⟨hfound, hname⟩ := h.item?_eq_some.mp hfound
  have hfound' : found ∈ (b.modifyStudent s.id change).scoredItems :=
    List.mem_filter.mpr ⟨hfound, by simp [hscored]⟩
  -- the mark is written under the name in the book, which is where bindings and report look for it
  have hself : (change s).marks.get? found.name = some x := Marks.get?_set_self
  have hother : ∀ m, normalize m ≠ normalize n → (change s).marks.get? m = s.marks.get? m :=
    fun m hm => Marks.get?_set_of_ne fun heq => hm (heq.symm.trans hname)
  refine ⟨_, _, _, _, h.bindingsFor hmem, h'.bindingsFor (s := change s) hmem',
    h.calculateStudent_eq hmem, h'.calculateStudent_eq (s := change s) hmem',
    fun m hm => ?_, fun m hm => ?_, fun i hi hi' m hm => ?_⟩
  · have hm := hm.trans hname.symm
    exact ⟨(h'.get?_ofList_scores hfound' hm).trans hself,
      (h'.score?_lenientReport hfound' hm).trans hself⟩
  · have hitem : (b.modifyStudent s.id change).item? m = b.item? m := rfl
    rw [h'.get?_scores, h.get?_scores, hitem]
    refine Option.bind_congr fun j hj => hother _ ?_
    rwa [(h.item?_eq_some.mp (Option.filter_eq_some_iff.mp hj).1).2]
  · rw [h'.score?_lenientReport hi hm, h.score?_lenientReport hi hm, hother _ hi']

/-- A book in which a student has two marks for the first test, neither under its name. -/
def staleSession : List Change := [
  .addItem ⟨"Test 1", none, 100, 1, none⟩,
  .addItem ⟨"Test 2", none, 50, 1, none⟩,
  .addItem ⟨"Best", none, 100, 1, some "max([Test 1], 2 * [Test 2])"⟩,
  .addStudent ⟨"s", "Sam", .ofList [("Test1", 3), ("Test  1", 4), ("Test 2", 20)]⟩,
  .addStudent ⟨"t", "Tim", .ofList [("Test 1", 9), ("Test2", 8)]⟩]

/-- The recorded mark takes the place of both. -/
theorem record_counts_stale :
    let b := empty.replay staleSession
    b.Reachable ∧ (b.bindingsFor "s").toOption.bind (·.get? "Test1") = some 4 ∧
      ∃ b', b.record "s" " Test1" 55 = .ok b' ∧
        (∃ marks marks' r r', b.bindingsFor "s" = .ok marks ∧ b'.bindingsFor "s" = .ok marks' ∧
          b.calculateStudent .lenient "s" = .ok r ∧ b'.calculateStudent .lenient "s" = .ok r' ∧
          marks'.get? "Test1" = some 55 ∧ r'.score? "Test  1" = some 55 ∧
          marks'.get? "Test 2" = marks.get? "Test 2" ∧ r'.score? "Test2" = r.score? "Test2") ∧
        b'.bindingsFor "t" = b.bindingsFor "t" ∧
        b'.calculateStudent .strict "t" = b.calculateStudent .strict "t" := by
  intro b
  have hb : b.Reachable := ⟨staleSession, rfl⟩
  have hstale : (b.bindingsFor "s").toOption.bind (·.get? "Test1") = some 4 := by decide +kernel
  obtain ⟨found, hfound, hname, hscored⟩ : ∃ found ∈ b.items,
      normalize found.name = normalize " Test1" ∧ found.isComputed = false := by decide +kernel
  obtain ⟨b', hrecord⟩ : ∃ b', b.record "s" " Test1" 55 = .ok b' :=
    ⟨_, record_eq_ok.mpr ⟨found, hb.consistent.item?_eq_some.mpr ⟨hfound, hname⟩, hscored,
      by decide +kernel, rfl⟩⟩
  obtain ⟨i, hi, hiname⟩ : ∃ i ∈ b.scoredItems, i.name = "Test 2" := by decide +kernel
  obtain ⟨⟨marks, marks', r, r', hmarks, hmarks', hr, hr', hself, hbindings, hscores⟩, hothers⟩ :=
    record_counts hb hrecord
  refine ⟨hb, hstale, b', hrecord, ⟨marks, marks', r, r', hmarks, hmarks', hr, hr',
    (hself _ (by decide +kernel)).1, (hself _ (by decide +kernel)).2,
    hbindings _ (by decide +kernel), ?_⟩, ?_, ?_⟩
  · exact hscores i hi (by rw [hiname]; decide +kernel) _ (by rw [hiname]; decide +kernel)
  · exact (hothers "t" (by decide)).1
  · exact (hothers "t" (by decide)).2 .strict

end Book

/-! ## Marks under several spellings -/

/-- Every mark stands under the name that an item has in the book. -/
def Book.MarksByName (b : Book) : Prop :=
  ∀ s ∈ b.students, ∀ e ∈ s.marks.entries, ∃ i ∈ b.items, i.name = e.1

instance (b : Book) : Decidable b.MarksByName :=
  inferInstanceAs (Decidable (∀ s ∈ b.students, ∀ e ∈ s.marks.entries, ∃ i ∈ b.items, i.name = e.1))

/-- Does the operation enter marks under the names that items have in the book, if it enters any?
A file does if it is refused, if it holds no marks or if it has all of them under these names. -/
def Change.entersByName : Change → Bool
  | addStudent s => s.marks.entries.isEmpty
  | setScore .. => false
  | load content => (Book.load content).toOption.all fun b => decide b.MarksByName
  | _ => true

namespace Book

variable {b b' : Book} {s : Student} {i : Item}

lemma MarksByName.apply {c : Change} (h : b.MarksByName) (hc : c.entersByName = true)
    (happly : b.apply c = .ok b') : b'.MarksByName := by
  cases c with
  | addCategory c =>
      obtain ⟨_, _, rfl⟩ := addCategory_eq_ok.mp happly
      exact h
  | addItem x =>
      obtain ⟨_, _, _, _, _, rfl⟩ := addItem_eq_ok.mp happly
      intro s hs e he
      obtain ⟨i, hi, hname⟩ := h s hs e he
      exact ⟨i, List.mem_append_left _ hi, hname⟩
  | addStudent s =>
      obtain ⟨_, rfl⟩ := addStudent_eq_ok.mp happly
      refine forall_mem_concat h fun e he => ?_
      have hnone : s.marks.entries = [] := by simpa [Change.entersByName] using hc
      rw [hnone] at he
      cases he
  | record id item x =>
      obtain ⟨found, hfound, _, _, rfl⟩ := record_eq_ok.mp happly
      intro s' hs' e he
      obtain ⟨s, hs, rfl⟩ := List.mem_map.mp hs'
      split_ifs at he
      · rcases Marks.mem_setEntry he with rfl | he
        · exact ⟨found, List.mem_of_find?_eq_some hfound, rfl⟩
        · exact h s hs e he
      · exact h s hs e he
  | setScore id item x => cases hc
  | load content =>
      have hload : load content = .ok b' := happly
      simpa [Change.entersByName, hload, Except.toOption] using hc

/-- Where marks are entered by name, they stand under names of the book, by induction on its
history. -/
lemma marksByName_replay {changes : List Change} (h : ∀ c ∈ changes, c.entersByName = true) :
    (empty.replay changes).MarksByName := by
  refine List.foldlRecOn (motive := MarksByName) changes _ (fun s hs => by cases hs)
    fun b hb c hc => ?_
  rw [applyOrKeep]
  cases happly : b.apply c with
  | ok b' => exact hb.apply (h c hc) happly
  | error e => exact hb

/-- A student whose marks stand under names of the book has one mark at most for every name. -/
lemma Consistent.unambiguous (h : b.Consistent) (hnamed : b.MarksByName) (hs : s ∈ b.students)
    (item : String) : s.marks.Unambiguous item := by
  intro e he e' he' hname hname'
  obtain ⟨i, hi, hie⟩ := hnamed s hs e he
  obtain ⟨j, hj, hje⟩ := hnamed s hs e' he'
  have hij : normalize i.name = normalize j.name := by
    rw [hie, hje, sameName_iff.mp hname, sameName_iff.mp hname']
  obtain rfl := List.inj_on_of_nodup_map h.distinctItems hi hj hij
  have hfound := Marks.get?_of_mem he
  rw [← hie, hje, Marks.get?_of_mem he'] at hfound
  exact (Option.some.inj hfound).symm

/-- **When the marks of a student agree with what is shown.**  In every book that can come about,
the bindings and the lenient report of a student show the same mark for an item that takes marks,
under whatever spelling they are asked: the one that is found among the marks of the student under
the name of the item.  The marks of the student, asked under any spelling of this name, agree with
both if, and only if, all marks under spellings of the name are the same.  So they always agree in a
book whose marks have been entered by name, after a file has been loaded as well as from the
start. -/
theorem marks_agree_iff (hb : b.Reachable) (hs : s ∈ b.students) (hi : i ∈ b.scoredItems) :
    ∃ marks r, b.bindingsFor s.id = .ok marks ∧ b.calculateStudent .lenient s.id = .ok r ∧
      (∀ n, normalize n = normalize i.name →
        marks.get? n = s.marks.get? i.name ∧ r.score? n = s.marks.get? i.name) ∧
      ((∀ n, normalize n = normalize i.name →
          s.marks.get? n = marks.get? n ∧ s.marks.get? n = r.score? n) ↔
        s.marks.Unambiguous i.name) ∧
      ∀ changes, empty.replay changes = b → (∀ c ∈ changes, c.entersByName = true) →
        ∀ n, normalize n = normalize i.name →
          s.marks.get? n = marks.get? n ∧ s.marks.get? n = r.score? n := by
  have h := hb.consistent
  have hmarks : ∀ n, normalize n = normalize i.name →
      (Bindings.ofList (b.scores s)).get? n = s.marks.get? i.name :=
    fun n hn => h.get?_ofList_scores hi hn
  have hscore : ∀ n, normalize n = normalize i.name →
      (b.lenientReport s).score? n = s.marks.get? i.name :=
    fun n hn => h.score?_lenientReport hi hn
  have hagree : (∀ n, normalize n = normalize i.name →
      s.marks.get? n = (Bindings.ofList (b.scores s)).get? n ∧
        s.marks.get? n = (b.lenientReport s).score? n) ↔ s.marks.Unambiguous i.name := by
    rw [Marks.unambiguous_iff]
    refine forall₂_congr fun n hn => ?_
    rw [hmarks n hn, hscore n hn, and_self]
  refine ⟨_, _, h.bindingsFor hs, h.calculateStudent_eq hs,
    fun n hn => ⟨hmarks n hn, hscore n hn⟩, hagree, ?_⟩
  rintro changes rfl hchanges
  exact hagree.mpr (h.unambiguous (marksByName_replay hchanges) hs i.name)

/-- A book in which a student has two marks for one item, both the same, and another student has two
that differ. -/
def respelledSession : List Change := [
  .addItem ⟨"Test 1", none, 100, 1, none⟩,
  .addStudent ⟨"s", "Sam", .ofList [("Test1", 7), (" Test 1", 7)]⟩,
  .addStudent ⟨"t", "Tim", .ofList [("Test 1", 2), ("Test1", 1)]⟩]

/-- A book that is loaded from a file without marks, and that marks are recorded in after. -/
def recordedSession : List Change := [
  .load ("\x7b\"items\": [\x7b\"name\": \"Test 1\"\x7d]," ++
    "\"students\": [\x7b\"id\": \"u\", \"name\": \"Uma\"\x7d]\x7d"),
  .record "u" "Test1" 3,
  .record "u" " Test 1" 8]

/-- Where both marks are the same, the spelling does not matter, and it does not matter where marks
have been recorded. -/
theorem marks_agree_respelled :
    (let b := empty.replay respelledSession
    b.Reachable ∧ ∃ s ∈ b.students, ∃ i ∈ b.scoredItems, s.id = "s" ∧ i.name = "Test 1" ∧
      ∃ marks r, b.bindingsFor s.id = .ok marks ∧ b.calculateStudent .lenient s.id = .ok r ∧
        ∀ n, normalize n = "Test1" →
          s.marks.get? n = some 7 ∧ marks.get? n = some 7 ∧ r.score? n = some 7) ∧
    (let b := empty.replay recordedSession
    b.Reachable ∧ ∃ s ∈ b.students, ∃ i ∈ b.scoredItems, s.id = "u" ∧ i.name = "Test 1" ∧
      (∀ c ∈ recordedSession, c.entersByName = true) ∧
      ∃ marks r, b.bindingsFor s.id = .ok marks ∧ b.calculateStudent .lenient s.id = .ok r ∧
        ∀ n, normalize n = "Test1" →
          s.marks.get? n = some 8 ∧ marks.get? n = some 8 ∧ r.score? n = some 8) := by
  have hplain : ∀ i : Item, i.name = "Test 1" → normalize i.name = "Test1" := by
    intro i hname
    rw [hname]
    decide +kernel
  constructor
  · intro b
    have hb : b.Reachable := ⟨respelledSession, rfl⟩
    obtain ⟨s, hs, i, hi, hid, hname, hfound, hsame⟩ : ∃ s ∈ b.students, ∃ i ∈ b.scoredItems,
        s.id = "s" ∧ i.name = "Test 1" ∧ s.marks.get? i.name = some 7 ∧
          s.marks.Unambiguous i.name := by decide +kernel
    obtain ⟨marks, r, hmarks, hr, hshown, hagree, _⟩ := marks_agree_iff hb hs hi
    refine ⟨hb, s, hs, i, hi, hid, hname, marks, r, hmarks, hr, fun n hn => ?_⟩
    have hn := hn.trans (hplain i hname).symm
    obtain ⟨hmark, hscore⟩ := hshown n hn
    exact ⟨(hagree.mpr hsame n hn).1.trans (hmark.trans hfound), hmark.trans hfound,
      hscore.trans hfound⟩
  · intro b
    have hb : b.Reachable := ⟨recordedSession, rfl⟩
    have hbyName : ∀ c ∈ recordedSession, c.entersByName = true := by decide +kernel
    obtain ⟨s, hs, i, hi, hid, hname, hfound⟩ : ∃ s ∈ b.students, ∃ i ∈ b.scoredItems,
        s.id = "u" ∧ i.name = "Test 1" ∧ s.marks.get? i.name = some 8 := by decide +kernel
    obtain ⟨marks, r, hmarks, hr, hshown, _, hrecorded⟩ := marks_agree_iff hb hs hi
    refine ⟨hb, s, hs, i, hi, hid, hname, hbyName, marks, r, hmarks, hr, fun n hn => ?_⟩
    have hn := hn.trans (hplain i hname).symm
    obtain ⟨hmark, hscore⟩ := hshown n hn
    exact ⟨(hrecorded recordedSession rfl hbyName n hn).1.trans (hmark.trans hfound),
      hmark.trans hfound, hscore.trans hfound⟩

/-- Where they differ, the marks of the student are not those that count. -/
theorem marks_disagree :
    let b := empty.replay respelledSession
    b.Reachable ∧ ∃ s ∈ b.students, ∃ i ∈ b.scoredItems, s.id = "t" ∧ i.name = "Test 1" ∧
      ∃ marks r, b.bindingsFor s.id = .ok marks ∧ b.calculateStudent .lenient s.id = .ok r ∧
        normalize "Test1" = normalize i.name ∧ s.marks.get? "Test1" = some 1 ∧
        marks.get? "Test1" = some 2 ∧ r.score? "Test1" = some 2 := by
  intro b
  have hb : b.Reachable := ⟨respelledSession, rfl⟩
  have h := hb.consistent
  obtain ⟨s, hs, i, hi, hid, hname, hexact, hfound⟩ : ∃ s ∈ b.students, ∃ i ∈ b.scoredItems,
      s.id = "t" ∧ i.name = "Test 1" ∧ s.marks.get? "Test1" = some 1 ∧
        s.marks.get? i.name = some 2 := by decide +kernel
  have hplain : normalize "Test1" = normalize i.name := by
    rw [hname]
    decide +kernel
  exact ⟨hb, s, hs, i, hi, hid, hname, _, _, h.bindingsFor hs, h.calculateStudent_eq hs, hplain,
    hexact, (h.get?_ofList_scores hi hplain).trans hfound,
    (h.score?_lenientReport hi hplain).trans hfound⟩

end Book

end Markbook
