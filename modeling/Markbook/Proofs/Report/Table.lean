import Markbook.Proofs.Report.Roster
import Markbook.Report.TableReader

/-!
# Tables are read back

Whatever its fields hold, the text of a table is read as the records it was written from.  The
reader is followed along the text: a field takes it from before the field to a place where the field
may end, a separator from there to before the next field, and nothing that was read before matters.

* `TableReader.read_writeField`, `read_writeRecord`, `read_writeRecords` — the reader over the text
  of a field, of a record and of many.
* `readTable_writeTable` — a table is read back.
* `Book.readTable_writeReport` — what is read from the text of a report.
-/

namespace Markbook

namespace TableReader

variable {f : TableFormat} {fields : List String} {records : List (List String)}

/-! ## Fields -/

/-- The places at which a field may end. -/
inductive MayEnd : Place → Prop
  | fresh : MayEnd .fresh
  | bare : MayEnd .bare
  | closing : MayEnd .closing

/-- Between quotes everything belongs to the field. -/
lemma read_doubleQuotes : ∀ (cs done : List Char),
    (doubleQuotes cs).foldlM (step f) ⟨.quoted, done, fields, records⟩ =
      some ⟨.quoted, done ++ cs, fields, records⟩
  | [], done => by rw [doubleQuotes, List.append_nil]; rfl
  | c :: cs, done => by
      have hrest := read_doubleQuotes cs (done ++ [c])
      rw [List.append_assoc, List.singleton_append] at hrest
      by_cases hc : c = '"'
      -- The first of the two quotes leads out of the field, the second back into it.
      · rw [doubleQuotes, if_pos hc]
        rw [hc] at hrest ⊢
        exact hrest
      · rw [doubleQuotes, if_neg hc, List.foldlM_cons, step]
        simp only [if_neg hc]
        exact hrest

/-- Without quotes everything else than what needs them belongs to the field. -/
lemma read_bare : ∀ {cs : List Char} {p : Place} (done : List Char), p = .fresh ∨ p = .bare →
    (∀ c ∈ cs, needsQuotes f.delimiter c = false) →
    ∃ p', MayEnd p' ∧ cs.foldlM (step f) ⟨p, done, fields, records⟩ =
      some ⟨p', done ++ cs, fields, records⟩
  | [], p, done, hp, _ => by
      rw [List.append_nil]
      rcases hp with rfl | rfl
      · exact ⟨_, .fresh, rfl⟩
      · exact ⟨_, .bare, rfl⟩
  | c :: cs, p, done, hp, h => by
      obtain ⟨hc, hcs⟩ := List.forall_mem_cons.mp h
      obtain ⟨p', hp', hrest⟩ := read_bare (done ++ [c]) (.inr rfl) hcs
      refine ⟨p', hp', ?_⟩
      simp only [needsQuotes, Bool.or_eq_false_iff, beq_eq_false_iff_ne, ne_eq] at hc
      obtain ⟨⟨⟨hdelimiter, hquote⟩, hreturn⟩, hfeed⟩ := hc
      have hstep : step f ⟨p, done, fields, records⟩ c =
          some ⟨.bare, done ++ [c], fields, records⟩ := by
        rcases hp with rfl | rfl <;> simp [step, outside, push, hdelimiter, hquote, hreturn, hfeed]
      rw [List.foldlM_cons, hstep]
      rw [List.append_assoc, List.singleton_append] at hrest
      exact hrest

/-- **The text of a field is read** up to a place where the field may end. -/
lemma read_writeField (field : List Char) (fields : List String) (records : List (List String)) :
    ∃ p, MayEnd p ∧
      (writeField f.delimiter field).foldlM (step f) ⟨.fresh, [], fields, records⟩ =
        some ⟨p, field, fields, records⟩ := by
  rw [writeField]
  split
  · refine ⟨.closing, .closing, ?_⟩
    rw [List.cons_append, List.foldlM_cons]
    change (doubleQuotes field ++ ['"']).foldlM (step f) ⟨.quoted, [], fields, records⟩ = _
    rw [List.foldlM_append, read_doubleQuotes]
    rfl
  · next hplain =>
      rw [Bool.not_eq_true, List.any_eq_false] at hplain
      exact read_bare [] (.inl rfl) fun c hc => by simpa using hplain c hc

/-! ## Separators -/

lemma step_delimiter (hf : f.IsReadable) {p : Place} (hp : MayEnd p) (field : List Char) :
    step f ⟨p, field, fields, records⟩ f.delimiter =
      some ⟨.fresh, [], fields ++ [String.ofList field], records⟩ := by
  have hquote := hf.quote
  cases hp <;> simp [step, outside, separate, endField, hquote]

lemma read_lineEnd (hf : f.IsReadable) {p : Place} (hp : MayEnd p) (field : List Char) :
    (lineEnd f.carriageReturn).foldlM (step f) ⟨p, field, fields, records⟩ =
      some ⟨.fresh, [], [], records ++ [fields ++ [String.ofList field]]⟩ := by
  have hreturn := hf.carriageReturn.symm
  have hfeed := hf.lineFeed.symm
  cases hend : f.carriageReturn <;> cases hp <;>
    simp [lineEnd, step, outside, separate, endRecord, endField, hreturn, hfeed, hend]

/-! ## Records -/

/-- The text of a record is read behind the fields that came before. -/
lemma read_fields (hf : f.IsReadable) : ∀ (field : String) (rest fields : List String),
    (List.intercalate [f.delimiter]
        ((field :: rest).map fun x => writeField f.delimiter x.toList) ++
      lineEnd f.carriageReturn).foldlM (step f) ⟨.fresh, [], fields, records⟩ =
        some ⟨.fresh, [], [], records ++ [fields ++ field :: rest]⟩
  | field, [], fields => by
      obtain ⟨p, hp, hfield⟩ := read_writeField (f := f) field.toList fields records
      rw [List.map_singleton, List.intercalate_singleton, List.foldlM_append, hfield]
      refine (read_lineEnd hf hp _).trans ?_
      rw [String.ofList_toList]
  | field, next :: rest, fields => by
      obtain ⟨p, hp, hfield⟩ := read_writeField (f := f) field.toList fields records
      have hrest := read_fields hf next rest (fields ++ [field])
      rw [List.append_assoc, List.singleton_append, List.map_cons] at hrest
      rw [List.map_cons, List.map_cons, List.intercalate_cons_cons, List.append_assoc,
        List.append_assoc, List.foldlM_append, hfield]
      change (step f _ f.delimiter).bind _ = _
      rw [step_delimiter hf hp, String.ofList_toList]
      exact hrest

lemma read_writeRecord (hf : f.IsReadable) {record : List String} (hrecord : record ≠ []) :
    (writeRecord f record).foldlM (step f) ⟨.fresh, [], [], records⟩ =
      some ⟨.fresh, [], [], records ++ [record]⟩ := by
  obtain ⟨field, rest, rfl⟩ := List.exists_cons_of_ne_nil hrecord
  exact read_fields hf field rest []

/-- **Records are read one by one**, behind those that came before. -/
lemma read_writeRecords (hf : f.IsReadable) : ∀ {table : List (List String)}
    (records : List (List String)), (∀ record ∈ table, record ≠ []) →
    (table.flatMap (writeRecord f)).foldlM (step f) ⟨.fresh, [], [], records⟩ =
      some ⟨.fresh, [], [], records ++ table⟩
  | [], records, _ => by rw [List.flatMap_nil, List.append_nil]; rfl
  | record :: table, records, h => by
      obtain ⟨hrecord, htable⟩ := List.forall_mem_cons.mp h
      have hrest := read_writeRecords hf (records ++ [record]) htable
      rw [List.append_assoc, List.singleton_append] at hrest
      rw [List.flatMap_cons, List.foldlM_append, read_writeRecord hf hrecord]
      exact hrest

end TableReader

/-- Records with the same number of fields make a table. -/
lemma writeTable_eq (f : TableFormat) {table : List (List String)} {width : Nat}
    (h : ∀ record ∈ table, record.length = width) :
    writeTable f table = some (String.ofList (table.flatMap (writeRecord f))) := by
  refine if_pos (List.all_eq_true.mpr fun record hrecord => ?_)
  cases table with
  | nil => cases hrecord
  | cons first rest => simp [h record hrecord, h first List.mem_cons_self]

/-- **A table is read back** as the records it was written from. -/
theorem readTable_writeTable {f : TableFormat} (hf : f.IsReadable) {table : List (List String)}
    (h : ∀ record ∈ table, record ≠ []) {text : String} (htext : writeTable f table = some text) :
    readTable f text = some table := by
  rw [writeTable, Option.ite_none_right_eq_some] at htext
  obtain ⟨_, rfl⟩ := htext.imp_right Option.some.inj
  rw [readTable, String.toList_ofList, TableReader.start, TableReader.read_writeRecords hf [] h]
  rfl

/-! ## Reports -/

lemma whole_fixedNumeral_ne_nil (places units : Nat) : (fixedNumeral places units).whole ≠ [] := by
  refine List.ne_nil_of_length_pos ?_
  simp only [fixedNumeral, List.length_take, List.length_append, List.length_replicate]
  omega

/-- A score always has a text: a word, or a digit at least. -/
lemma printFixed_ne_empty (places : Nat) (x : Float) : printFixed places x ≠ "" := by
  rw [printFixed]
  cases Double.ofFloat x with
  | nan => simp
  | infinite negative => cases negative <;> simp
  | finite negative significand exponent =>
      have hwhole := whole_fixedNumeral_ne_nil places (roundToPlaces places significand exponent)
      cases negative <;> simp [Numeral.chars, hwhole]

/-- A field is empty only where there is no value. -/
lemma writeValue_eq_empty {places : Nat} {x : Option Float} :
    writeValue places x = "" ↔ x = none := by
  cases x with
  | none => simp [writeValue]
  | some x => simp [writeValue, printFixed_ne_empty]

lemma map_eq_zipWith {α β γ : Type} {g : β → γ} {k : α → β → γ} {xs : List α} {ys : List β}
    (h : List.Forall₂ (fun x y => g y = k x y) xs ys) : ys.map g = List.zipWith k xs ys := by
  induction h with
  | nil => rfl
  | cons hxy _ ih => rw [List.map_cons, List.zipWith_cons_cons, hxy, ih]

namespace Book

variable {b : Book} {s : Student}

/-- What the columns of a book show for a student. -/
def row (b : Book) (places : Nat) (s : Student) (r : StudentReport) : List String :=
  [s.id, s.name] ++ b.items.map (fun i => writeValue places (r.score? i.name))
    ++ b.categories.map (fun c => writeValue places (r.average? c.name))
    ++ [writeValue places r.overall]

/-- The averages of a report are those of the categories of the book. -/
lemma categories_report (b : Book) (schedule : Schedule) (s : Student) (computed : Bindings) :
    (b.report schedule s computed).categories = b.categories.map fun c =>
      ⟨c.name, categoryAverage (b.counted (b.items.map (itemResult s computed))) c⟩ := by
  rw [report, averages]
  cases hcategories : b.categories with
  | nil => rfl
  | cons c rest => simp

lemma Consistent.average?_report (h : b.Consistent) {c : Category} (hc : c ∈ b.categories)
    (schedule : Schedule) (computed : Bindings) :
    (b.report schedule s computed).average? c.name =
      categoryAverage (b.counted (b.items.map (itemResult s computed))) c := by
  have hfind : b.categories.find? (·.name == c.name) = some c :=
    (find?_key_eq_some h.distinctCategories).mpr ⟨hc, rfl⟩
  rw [StudentReport.average?, categories_report, List.find?_map, Function.comp_def, hfind]
  rfl

/-- The record of a report shows in every column what belongs there. -/
lemma Consistent.record_report (h : b.Consistent) (places : Nat) (schedule : Schedule)
    (computed : Bindings) : (b.report schedule s computed).record places =
      b.row places s (b.report schedule s computed) := by
  have hitems : (b.report schedule s computed).items.map (writeValue places ·.score) =
      b.items.map fun i =>
        writeValue places ((b.report schedule s computed).score? i.name) := by
    change (b.items.map (itemResult s computed)).map _ = _
    rw [List.map_map]
    refine List.map_congr_left fun i hi => ?_
    rw [h.score?_report hi, Function.comp_apply]
  have hcategories : (b.report schedule s computed).categories.map (writeValue places ·.average) =
      b.categories.map fun c =>
        writeValue places ((b.report schedule s computed).average? c.name) := by
    rw [categories_report, List.map_map]
    refine List.map_congr_left fun c hc => ?_
    rw [h.average?_report hc, Function.comp_apply]
  rw [StudentReport.record, row, hitems, hcategories]
  rfl

lemma length_row {places : Nat} {r : StudentReport} :
    (b.row places s r).length = 2 + b.items.length + b.categories.length + 1 := by
  simp only [row, List.length_append, List.length_map, List.length_cons, List.length_nil]

lemma length_header : b.header.length = 2 + b.items.length + b.categories.length + 1 := by
  simp only [header, List.length_append, List.length_map, List.length_cons, List.length_nil]

/-- **A report is read back from its text.**  In every book that can come about, the report of a
class has a text under every format with a delimiter that can be told from quotes and line ends.
What is read from it is the header and one record for each student in the order of the roster, with
the id, the name, the score of each item, the average of each category and the overall grade.  All
records have one field for each column, and an empty field stands for an absent value only. -/
theorem readTable_writeReport (hb : b.Reachable) {f : TableFormat} (hf : f.IsReadable)
    {mode : Mode} {c : ClassReport} (hc : b.calculateAll mode = .ok c) :
    ∃ text records, b.writeReport f c.students = some text ∧ readTable f text = some records ∧
      records = (["student_id", "student_name"] ++ b.items.map (·.name)
          ++ b.categories.map (·.name) ++ ["overall"]) ::
        List.zipWith (b.row f.places) b.students c.students ∧
      records.length = 1 + b.students.length ∧
      (∀ record ∈ records,
        record.length = 2 + b.items.length + b.categories.length + 1) ∧
      ∀ x, writeValue f.places x = "" ↔ x = none := by
  have h := hb.consistent
  obtain ⟨schedule, _, reports, hreports, rfl⟩ := calculateAll_eq_ok.mp hc
  have hrecords : List.Forall₂ (fun s r => r.record f.places = b.row f.places s r) b.students
      (reports.map (·.1)) := by
    refine List.forall₂_map_right_iff.mpr ((mapM_eq_ok.mp hreports).imp fun s r hr => ?_)
    obtain ⟨marks, _, hr⟩ := Except.bind_eq_ok.mp hr
    obtain ⟨p, _, hr⟩ := Except.bind_eq_ok.mp hr
    cases hr
    exact h.record_report f.places schedule p.bindings
  have htable : b.table f.places (reports.map (·.1)) =
      b.header :: List.zipWith (b.row f.places) b.students (reports.map (·.1)) := by
    rw [table, map_eq_zipWith hrecords]
  have hwidth : ∀ record ∈ b.table f.places (reports.map (·.1)),
      record.length = 2 + b.items.length + b.categories.length + 1 := by
    rw [htable, List.forall_mem_cons, ← List.map_uncurry_zip_eq_zipWith, List.forall_mem_map]
    exact ⟨length_header, fun _ _ => length_row⟩
  have hnonempty : ∀ record ∈ b.table f.places (reports.map (·.1)), record ≠ [] := by
    intro record hrecord
    refine List.ne_nil_of_length_pos ?_
    rw [hwidth record hrecord]
    exact Nat.succ_pos _
  have htext := writeTable_eq f hwidth
  refine ⟨_, _, htext, readTable_writeTable hf hnonempty htext, htable, ?_, hwidth, ?_⟩
  · rw [table, List.length_cons, List.length_map, ← hrecords.length_eq, Nat.add_comm]
  · exact fun x => writeValue_eq_empty

/-- A book and a class in whose names quotes, line ends and delimiters stand. -/
def punctuatedSession : List Change := [
  .addCategory ⟨"Labs, \"A\"", 1⟩,
  .addItem ⟨"Lab-1", some "Labs, \"A\"", 100, 1, none⟩,
  .addItem ⟨"Rest", none, 100, 1, some "[Lab-1] - 40"⟩,
  .addStudent ⟨"s-1", "Ada \"Al\"\r\nLee", .ofList [("Lab-1", 39.5)]⟩,
  .addStudent ⟨"s2", "Bob", .empty⟩]

/-- The report of this class in a table with dashes between its fields. -/
theorem readTable_punctuated :
    let b := empty.replay punctuatedSession
    let f : TableFormat := { delimiter := '-', places := 1, carriageReturn := true }
    b.Reachable ∧ f.IsReadable ∧ ∃ c text, b.calculateAll .lenient = .ok c ∧
      b.writeReport f c.students = some text ∧ readTable f text = some [
        ["student_id", "student_name", "Lab-1", "Rest", "Labs, \"A\"", "overall"],
        ["s-1", "Ada \"Al\"\r\nLee", "39.5", "-0.5", "39.5", "39.5"],
        ["s2", "Bob", "", "-40.0", "", ""]] := by
  intro b f
  have hb : b.Reachable := ⟨punctuatedSession, rfl⟩
  have hf : f.IsReadable := ⟨by decide, by decide, by decide⟩
  have hrows : (b.calculateAll .lenient).toOption.map
      (fun c => b.header :: List.zipWith (b.row f.places) b.students c.students) = some [
        ["student_id", "student_name", "Lab-1", "Rest", "Labs, \"A\"", "overall"],
        ["s-1", "Ada \"Al\"\r\nLee", "39.5", "-0.5", "39.5", "39.5"],
        ["s2", "Bob", "", "-40.0", "", ""]] := by decide +kernel
  cases hrun : b.calculateAll .lenient with
  | error e => simp [hrun, Except.toOption] at hrows
  | ok c =>
      obtain ⟨text, records, htext, hread, hrecords, _⟩ := readTable_writeReport hb hf hrun
      rw [hrun] at hrows
      refine ⟨hb, hf, c, text, rfl, htext, ?_⟩
      rw [hread, hrecords]
      exact hrows

end Book

end Markbook
