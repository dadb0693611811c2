import Markbook.Command.Run
import Markbook.Proofs.Report.Table

/-!
# The answer to a request for a report

The report of one student is calculated in another way than that of a class, and the text of either
may be printed or go to a file.  None of this makes a difference to the text: it is the header with
one record for each student, and the record of a student is the same whoever else is in the table.
Where there is no report, nothing is left behind but a message.

* `Outcome.Prints`, `Outcome.Writes`, `Outcome.Fails` — what a request comes to.
* `Unreportable` — why there is no report.
* `Request.run_report` — the answer to a request.
-/

namespace Markbook

/-! ## Outcomes -/

namespace Outcome

/-- A success that prints the text. -/
structure Prints (o : Outcome) (text : String) : Prop where
  exit : o.exit = 0
  stdout : o.stdout = text
  file : o.file = none

/-- A success that writes the text to a file and prints nothing. -/
structure Writes (o : Outcome) (path text : String) : Prop where
  exit : o.exit = 0
  stdout : o.stdout = ""
  file : o.file = some (path, text)

/-- A failure without a trace, messages apart. -/
structure Fails (o : Outcome) : Prop where
  exit : o.exit ≠ 0
  stdout : o.stdout = ""
  file : o.file = none

lemma fails_fail (context : String) (reasons : List String) : (fail context reasons).Fails :=
  ⟨Nat.one_ne_zero, rfl, rfl⟩

lemma Fails.not_prints {o : Outcome} {text : String} (h : o.Fails) : ¬ o.Prints text :=
  fun hprints => h.exit hprints.exit

end Outcome

open Outcome (fails_fail)

/-! ## The text of a report -/

/-- The lenient reports of some students as a table: the header, and the record of each of them. -/
lemma Book.Consistent.writeReport_lenient {b : Book} (h : b.Consistent) (f : TableFormat)
    (students : List Student) : b.writeReport f (students.map b.lenientReport) =
      some (String.ofList (writeRecord f b.header ++
        students.flatMap fun s => writeRecord f ((b.lenientReport s).record f.places))) := by
  have hwidth : ∀ record ∈ b.table f.places (students.map b.lenientReport),
      record.length = 2 + b.items.length + b.categories.length + 1 := by
    rw [Book.table, List.forall_mem_cons, List.map_map, List.forall_mem_map]
    refine ⟨Book.length_header, fun s _ => ?_⟩
    rw [Function.comp_apply, Book.lenientReport, h.record_report, Book.length_row]
  rw [Book.writeReport, writeTable_eq f hwidth, Book.table, List.flatMap_cons, List.map_map,
    List.flatMap_map]
  rfl

/-! ## Reports of a book -/

section

variable {host : Host} {b : Book} {student : Option String} {delimiter : Char} {mode : Mode}
  {c : ClassReport} {path text : String}

lemma prints_reportBook (hc : calculate b mode student = .ok c)
    (htext : b.writeReport { TableFormat.default with delimiter } c.students = some text) :
    (reportBook host b student none delimiter mode).Prints text := by
  rw [reportBook, hc]
  simp only [htext, closeWith]
  split <;> exact ⟨rfl, rfl, rfl⟩

lemma writes_reportBook (hpath : host.refusal path = none) (hc : calculate b mode student = .ok c)
    (htext : b.writeReport { TableFormat.default with delimiter } c.students = some text) :
    (reportBook host b student (some path) delimiter mode).Writes path text := by
  rw [reportBook, hc]
  simp only [htext, deliver, hpath, closeWith]
  split <;> exact ⟨rfl, rfl, rfl⟩

/-- Whatever can be printed can also be written to a file. -/
lemma writes_of_prints (hpath : host.refusal path = none)
    (hprints : (reportBook host b student none delimiter mode).Prints text) :
    (reportBook host b student (some path) delimiter mode).Writes path text := by
  cases hc : calculate b mode student with
  | error e =>
      rw [reportBook, hc] at hprints
      exact ((fails_fail _ _).not_prints hprints).elim
  | ok c =>
      cases htext : b.writeReport { TableFormat.default with delimiter } c.students with
      | none =>
          rw [reportBook, hc] at hprints
          simp only [htext] at hprints
          exact absurd hprints.exit Nat.one_ne_zero
      | some printed =>
          obtain rfl := (prints_reportBook hc htext).stdout.symm.trans hprints.stdout
          exact writes_reportBook hpath hc htext

lemma fails_reportBook {table : Option String} {e : BookError}
    (hc : calculate b mode student = .error e) :
    (reportBook host b student table delimiter mode).Fails := by
  rw [reportBook, hc]
  exact fails_fail _ _

lemma calculate_some_of_notMem {id : String} (hid : id ∉ b.students.map (·.id)) :
    calculate b mode (some id) = .error (.unknownStudent id) := by
  rw [calculate, Book.calculateStudent, Book.student?_eq_none.mpr hid]
  rfl

/-! ## Requests -/

/-- Why there is no report of the book in a text. -/
inductive Unreportable (content : String) (student : Option String) (delimiter : Char)
    (mode : Mode) : Prop
  | delimiter : 0x80 ≤ delimiter.toNat → Unreportable content student delimiter mode
  | book {e : BookError} : Book.load content = .error e →
      Unreportable content student delimiter mode
  | student {b : Book} {id : String} : Book.load content = .ok b → student = some id →
      id ∉ b.students.map (·.id) → Unreportable content student delimiter mode
  | calculation {b : Book} {e : BookError} : Book.load content = .ok b →
      calculate b mode student = .error e → Unreportable content student delimiter mode

lemma runReport_eq {input content : String} {table : Option String}
    (hread : host.read input = .ok content) (hload : Book.load content = .ok b)
    (hdelimiter : delimiter.toNat < 0x80) :
    runReport host input student table delimiter mode =
      reportBook host b student table delimiter mode := by
  rw [runReport, if_neg (Nat.not_le.mpr hdelimiter), hread]
  simp only [hload]

lemma fails_runReport {input content : String} {table : Option String}
    (hread : host.read input = .ok content)
    (h : Unreportable content student delimiter mode) :
    (runReport host input student table delimiter mode).Fails := by
  by_cases hdelimiter : 0x80 ≤ delimiter.toNat
  · rw [runReport, if_pos hdelimiter]
    exact fails_fail _ _
  cases h with
  | delimiter hd => exact absurd hd hdelimiter
  | book hload =>
      rw [runReport, if_neg hdelimiter, hread]
      simp only [hload]
      exact fails_fail _ _
  | student hload hstudent hid =>
      rw [runReport_eq hread hload (Nat.not_le.mp hdelimiter), hstudent]
      exact fails_reportBook (calculate_some_of_notMem hid)
  | calculation hload hc =>
      rw [runReport_eq hread hload (Nat.not_le.mp hdelimiter)]
      exact fails_reportBook hc

end

/-- **All ways to a report give the same text.**  Let the input be a text that can be read.  If it
is that of a book, and the delimiter an ASCII character, there is a record for every student such
that a lenient report prints the header and all records in the order of the roster, and that of one
student the header and the record of this student.  Whatever is printed for a request goes to the
file instead if one is named that can be written.

If the delimiter is another character, the text not that of a book, the student unknown or the
calculation a failure, so is the request; nothing is printed, and no file is written. -/
theorem Request.run_report (host : Host) {input content : String}
    (hread : host.read input = .ok content) (delimiter : Char) :
    let answer := fun student table strict =>
      (Request.report input student table delimiter strict).run host
    (∀ b, Book.load content = .ok b → delimiter.toNat < 0x80 →
      let f := { TableFormat.default with delimiter }
      ∃ r : Student → StudentReport,
        (∀ s ∈ b.students, b.calculateStudent .lenient s.id = .ok (r s)) ∧
        (answer none none false).Prints (String.ofList (writeRecord f b.header ++
          b.students.flatMap fun s => writeRecord f ((r s).record f.places))) ∧
        (∀ s ∈ b.students, (answer (some s.id) none false).Prints
          (String.ofList (writeRecord f b.header ++ writeRecord f ((r s).record f.places)))) ∧
        ∀ student path strict text, host.refusal path = none →
          (answer student none strict).Prints text →
          (answer student (some path) strict).Writes path text) ∧
    ∀ student table strict,
      Unreportable content student delimiter (if strict then .strict else .lenient) →
      (answer student table strict).Fails := by
  intro answer
  refine ⟨fun b hload hdelimiter => ?_, fun student table strict h => fails_runReport hread h⟩
  intro f
  have hanswer : ∀ student table strict, answer student table strict =
      reportBook host b student table delimiter (if strict then .strict else .lenient) :=
    fun student table strict => runReport_eq hread hload hdelimiter
  have h := Book.consistent_load hload
  obtain ⟨c, hc, hstudents⟩ := h.calculateAll_lenient
  refine ⟨b.lenientReport, fun s hs => h.calculateStudent_eq hs, ?_, fun s hs => ?_, ?_⟩
  · rw [hanswer]
    refine prints_reportBook hc ?_
    rw [hstudents, h.writeReport_lenient]
  · rw [hanswer]
    -- The report of one student makes the table of a class of one.
    have hone : calculate b .lenient (some s.id) =
        .ok ⟨[s].map b.lenientReport, ⟨1, 0, 0, 0⟩⟩ := by
      rw [calculate, h.calculateStudent_eq hs]
      rfl
    refine prints_reportBook hone ?_
    rw [h.writeReport_lenient, List.flatMap_singleton]
  · intro student path strict text hpath hprints
    rw [hanswer] at hprints ⊢
    exact writes_of_prints hpath hprints

/-- The file of a class of two, one of whom has a name that needs quotes. -/
def classFile : String :=
  "\x7b\"items\": [\x7b\"name\": \"Lab\"\x7d], \"students\": [" ++
    "\x7b\"id\": \"s1\", \"name\": \"Lee; Ada\"\x7d, " ++
    "\x7b\"id\": \"s2\", \"name\": \"Bob\", \"scores\": \x7b\"Lab\": 6\x7d\x7d]\x7d"

/-- The report of one of the two, printed and written, and two requests that fail. -/
theorem run_report_class :
    let host : Host := ⟨none, fun _ => .ok classFile, fun _ => none⟩
    let answer := fun student table delimiter =>
      (Request.report "class.json" student table delimiter false).run host
    ∃ text, text = "student_id;student_name;Lab;overall\ns1;\"Lee; Ada\";;\n" ∧
      (answer (some "s1") none ';').Prints text ∧
      (answer (some "s1") (some "out.csv") ';').Writes "out.csv" text ∧
      (answer (some "s3") (some "out.csv") ';').Fails ∧
      (answer none (some "out.csv") 'é').Fails := by
  intro host answer
  have hread : host.read "class.json" = .ok classFile := rfl
  obtain ⟨hreports, hfails⟩ := Request.run_report host hread ';'
  have hfile : (Book.load classFile).toOption.map (fun b => (b.students.map (·.id),
      (reportBook host b (some "s1") none ';' .lenient).stdout)) =
        some (["s1", "s2"], "student_id;student_name;Lab;overall\ns1;\"Lee; Ada\";;\n") := by
    decide +kernel
  cases hload : Book.load classFile with
  | error e =>
      rw [hload] at hfile
      cases hfile
  | ok b =>
      rw [hload] at hfile
      obtain ⟨hids, htext⟩ := Prod.mk.inj (Option.some.inj hfile)
      obtain ⟨r, _, _, hone, hwrites⟩ := hreports b hload (by decide)
      obtain ⟨s, hs, hid⟩ := List.mem_map.mp (hids ▸ List.mem_cons_self : "s1" ∈ b.students.map _)
      have hprints := hone s hs
      rw [hid] at hprints
      have hanswer : answer (some "s1") none ';' =
          reportBook host b (some "s1") none ';' .lenient := by
        change runReport host "class.json" (some "s1") none ';' .lenient = _
        rw [runReport_eq hread hload (by decide)]
      refine ⟨_, ?_, hprints, hwrites _ _ _ _ rfl hprints, ?_, ?_⟩
      · rw [← hprints.stdout, ← htext]
        exact congrArg Outcome.stdout hanswer
      · refine hfails _ _ _ (.student hload rfl ?_)
        rw [hids]
        decide
      · exact (Request.run_report host hread 'é').2 _ _ _ (.delimiter (by decide))

end Markbook
