import Markbook.Proofs.Book.Invariant
import Markbook.Proofs.Decimal.Binary
import Markbook.Proofs.Json.RoundTrip
import Markbook.Proofs.Ordered

/-!
# Books survive their files

A book that is saved and loaded again is the book that was saved.  The text of a file is read back
as the value it was written for; the value says what the book says, absent texts being left out and
taken as absent again; and the rules that loading checks are the rules that every book keeps, so
nothing is refused.

Scores are the one thing that can be lost.  A score that is not finite has no number in JSON and is
written as `null`, and such a file is refused as a whole.  Reading a number need not give the
nearest double, so that a finite score comes back is a condition on the score.

* `Json.Keeps` — the scores that come back from their text.
* `Contents.ofJson?_toJson` — what the value of a book says.
* `Book.Consistent.toBook` — loading refuses no book.
* `Book.load_save` — **what is saved is loaded**, or refused.
-/

namespace Markbook

/-! ## Values of a book can be written -/

namespace Json

/-- The score comes back when its own text is read. -/
def Keeps (x : Float) : Prop :=
  (parse? (ofFloat x).print).bind number? = some x

lemma regular_ofFloat (x : Float) : (ofFloat x).Regular := by
  rw [ofFloat]
  split
  · exact .number (canonical_numeral _ _ _)
  · exact .null

lemma Keeps.number?_ofFloat {x : Float} (h : Keeps x) : (ofFloat x).number? = some x := by
  rwa [Keeps, parse?_print (regular_ofFloat x)] at h

/-- What is not finite has no number. -/
lemma number?_ofFloat_of_not_finite {x : Float} (h : x.isFinite = false) :
    (ofFloat x).number? = none := by
  rw [ofFloat]
  split
  · next hdouble =>
      have hfinite := isFinite_iff_ofFloat.mpr ⟨_, _, _, hdouble⟩
      rw [h] at hfinite
      cases hfinite
  · rfl

lemma regular_object {ms : List (Option String × Json)}
    (h : ∀ m ∈ ms, m.1.isSome = true ∧ m.2.Regular) : (object ms).Regular :=
  .object (fun m hm => (h m hm).1) fun m hm => (h m hm).2

lemma regular_list {α : Type} {toJson : α → Json} (h : ∀ x, (toJson x).Regular) (xs : List α) :
    (array (xs.map toJson)).Regular :=
  .array fun y hy => by
    obtain ⟨x, _, rfl⟩ := List.mem_map.mp hy
    exact h x

end Json

open Json

lemma regular_optionalMember {name : String} {content : Option String} :
    ∀ m ∈ optionalMember name content, m.1.isSome = true ∧ m.2.Regular := by
  cases content with
  | none => simp [optionalMember]
  | some text => simpa [optionalMember, jsonMember, ofText] using Regular.text text

lemma Category.regular_toJson (c : Category) : c.toJson.Regular := by
  refine regular_object ?_
  simp [jsonMember, ofText, Regular.text, regular_ofFloat]

lemma Item.regular_toJson (i : Item) : i.toJson.Regular := by
  refine regular_object ?_
  simp only [List.cons_append, List.forall_mem_cons, List.forall_mem_append]
  exact ⟨⟨rfl, .text _⟩, ⟨regular_optionalMember, ⟨rfl, regular_ofFloat _⟩,
    ⟨rfl, regular_ofFloat _⟩, by simp⟩, regular_optionalMember⟩

lemma Marks.regular_toJson (m : Marks) : m.toJson.Regular := by
  refine regular_object fun member hmember => ?_
  obtain ⟨e, _, rfl⟩ := List.mem_map.mp hmember
  exact ⟨rfl, regular_ofFloat _⟩

lemma Student.regular_toJson (s : Student) : s.toJson.Regular := by
  refine regular_object ?_
  simp [jsonMember, ofText, Regular.text, s.marks.regular_toJson]

lemma Book.regular_toJson (b : Book) : b.toJson.Regular := by
  refine regular_object ?_
  simp [jsonMember, regular_list, Category.regular_toJson, Item.regular_toJson,
    Student.regular_toJson]

/-! ## What the values say -/

lemma mapM_eq_self {α : Type} {f : α → Option α} :
    ∀ {xs : List α}, (∀ x ∈ xs, f x = some x) → xs.mapM f = some xs
  | [], _ => rfl
  | x :: xs, h => by
      obtain ⟨hx, hxs⟩ := List.forall_mem_cons.mp h
      rw [List.mapM_cons, hx, mapM_eq_self hxs]
      rfl

lemma mapM_eq_none {α β : Type} {f : α → Option β} :
    ∀ {xs : List α}, (∃ x ∈ xs, f x = none) → xs.mapM f = none
  | y :: ys, h => by
      rw [List.mapM_cons]
      obtain ⟨x, hx, hnone⟩ := h
      rcases List.mem_cons.mp hx with rfl | hx
      · rw [hnone]
        rfl
      · rw [mapM_eq_none ⟨x, hx, hnone⟩]
        cases f y <;> rfl

lemma Category.ofJson?_toJson {c : Category} (h : Keeps c.weight) :
    Category.ofJson? c.toJson = some c := by
  simp [Category.ofJson?, Category.toJson, fields?, members?, member?, jsonMember, requiredField,
    ofText, text?, h.number?_ofFloat]

lemma Item.ofJson?_toJson {i : Item} (houtOf : Keeps i.outOf) (hweight : Keeps i.weight) :
    Item.ofJson? i.toJson = some i := by
  obtain ⟨name, category, outOf, weight, formula⟩ := i
  cases category <;> cases formula <;>
  simp [Item.ofJson?, Item.toJson, fields?, members?, member?, jsonMember, requiredField,
    optionalMember, optionalText, defaultField,
    ofText, text?, houtOf.number?_ofFloat, hweight.number?_ofFloat]

/-! ### Marks -/

lemma setEntry_of_last {item : String} {score : Float} : ∀ {entries : List (String × Float)},
    (∀ e ∈ entries, textBefore e.1 item = true) →
      Marks.setEntry item score entries = entries ++ [(item, score)]
  | [], _ => rfl
  | e :: rest, h => by
      obtain ⟨hbefore, hrest⟩ := List.forall_mem_cons.mp h
      have hne : item ≠ e.1 := by
        rintro rfl
        rw [textBefore_strictTotal.irrefl] at hbefore
        cases hbefore
      have hnot : ¬ textBefore item e.1 = true := by
        intro hafter
        have hself := textBefore_trans hbefore hafter
        rw [textBefore_strictTotal.irrefl] at hself
        cases hself
      rw [Marks.setEntry, if_neg hne, if_neg hnot, setEntry_of_last hrest, List.cons_append]

/-- Marks that are entered in order stay as they are entered. -/
lemma Marks.entries_foldl_set : ∀ {entries : List (String × Float)} {m : Marks},
    (m.entries ++ entries).Pairwise (fun a b => textBefore a.1 b.1 = true) →
      (entries.foldl (fun (m : Marks) e => m.set e.1 e.2) m).entries = m.entries ++ entries
  | [], m, _ => (List.append_nil _).symm
  | e :: rest, m, h => by
      have hlast : (m.set e.1 e.2).entries = m.entries ++ [e] :=
        setEntry_of_last fun x hx => (List.pairwise_append.mp h).2.2 x hx e List.mem_cons_self
      have hstep := @Marks.entries_foldl_set rest (m.set e.1 e.2)
      rw [hlast, List.append_assoc] at hstep
      exact hstep h

lemma Marks.ofList_entries (m : Marks) : Marks.ofList m.entries = m := by
  have hentries : (Marks.ofList m.entries).entries = m.entries := Marks.entries_foldl_set m.ordered
  obtain ⟨entries, ordered⟩ := m
  generalize Marks.ofList entries = built at hentries
  obtain ⟨_, _⟩ := built
  cases hentries
  rfl

lemma members?_named (ms : List (String × Json)) :
    (object (ms.map fun m => (some m.1, m.2))).members? = some ms := by
  rw [members?, List.mapM_map]
  exact mapM_eq_self fun m _ => rfl

lemma Marks.ofJson?_eq (m : Marks) : Marks.ofJson? m.toJson =
    (m.entries.mapM fun e => (ofFloat e.2).number?.map (e.1, ·)).bind (some <| .ofList ·) := by
  have hmembers : m.toJson.members? = some (m.entries.map fun e => (e.1, ofFloat e.2)) := by
    rw [← members?_named, List.map_map]
    rfl
  rw [Marks.ofJson?, hmembers]
  simp [List.mapM_map, Function.comp_def]

lemma Marks.ofJson?_toJson {m : Marks} (h : ∀ e ∈ m.entries, Keeps e.2) :
    Marks.ofJson? m.toJson = some m := by
  rw [Marks.ofJson?_eq, mapM_eq_self fun e he => by rw [(h e he).number?_ofFloat, Option.map_some],
    Option.bind_some, Marks.ofList_entries]

lemma Marks.ofJson?_of_not_finite {m : Marks} {e : String × Float} (he : e ∈ m.entries)
    (h : e.2.isFinite = false) : Marks.ofJson? m.toJson = none := by
  rw [Marks.ofJson?_eq, mapM_eq_none ⟨e, he, ?_⟩, Option.bind_none]
  rw [number?_ofFloat_of_not_finite h, Option.map_none]

/-! ### Students and books -/

lemma Student.ofJson?_eq (s : Student) : Student.ofJson? s.toJson =
    (Marks.ofJson? s.marks.toJson).bind fun marks => some { s with marks } := by
  simp [Student.ofJson?, Student.toJson, fields?, members?, member?, jsonMember, requiredField,
    defaultField, ofText, text?]

lemma Student.ofJson?_toJson {s : Student} (h : ∀ e ∈ s.marks.entries, Keeps e.2) :
    Student.ofJson? s.toJson = some s := by
  rw [Student.ofJson?_eq, Marks.ofJson?_toJson h, Option.bind_some]

/-- What a book says. -/
def Book.contents (b : Book) : Contents :=
  ⟨b.categories, b.items, b.students⟩

lemma Contents.ofJson?_eq (b : Book) : Contents.ofJson? b.toJson =
    (b.categories.mapM fun c => Category.ofJson? c.toJson).bind fun categories =>
      (b.items.mapM fun i => Item.ofJson? i.toJson).bind fun items =>
        (b.students.mapM fun s => Student.ofJson? s.toJson).bind fun students =>
          some ⟨categories, items, students⟩ := by
  simp [Contents.ofJson?, Book.toJson, fields?, members?, member?, jsonMember, listOf, elements?,
    defaultField, List.mapM_map, Function.comp_def]

/-- The numbers in a book: weights, maxima and marks. -/
def Book.numbers (b : Book) : List Float :=
  b.categories.map (·.weight) ++ b.items.flatMap (fun i => [i.outOf, i.weight])
    ++ b.students.flatMap fun s => s.marks.entries.map (·.2)

/-- **The value of a book says what the book says**, if its numbers come back. -/
theorem Contents.ofJson?_toJson {b : Book} (h : ∀ x ∈ b.numbers, Keeps x) :
    Contents.ofJson? b.toJson = some b.contents := by
  simp only [Book.numbers, List.forall_mem_append, List.forall_mem_map, List.forall_mem_flatMap,
    List.forall_mem_cons] at h
  obtain ⟨⟨hcategories, hitems⟩, hstudents⟩ := h
  rw [Contents.ofJson?_eq, mapM_eq_self fun c hc => Category.ofJson?_toJson (hcategories c hc),
    mapM_eq_self fun i hi => Item.ofJson?_toJson (hitems i hi).1 (hitems i hi).2.1,
    mapM_eq_self fun s hs => Student.ofJson?_toJson (hstudents s hs)]
  rfl

/-- A mark that is not finite makes the value of a book unreadable. -/
theorem Contents.ofJson?_of_not_finite {b : Book} {s : Student} (hs : s ∈ b.students)
    {e : String × Float} (he : e ∈ s.marks.entries) (h : e.2.isFinite = false) :
    Contents.ofJson? b.toJson = none := by
  have hstudent : Student.ofJson? s.toJson = none := by
    rw [Student.ofJson?_eq, Marks.ofJson?_of_not_finite he h, Option.bind_none]
  rw [Contents.ofJson?_eq, mapM_eq_none ⟨s, hs, hstudent⟩]
  simp

/-! ## Loading refuses no book -/

/-- Extending something step by step comes to the whole if every step does what it should. -/
lemma foldlM_eq_ok {α β ε : Type} {step : β → α → Except ε β} (whole : List α → β) :
    ∀ (done xs : List α), (∀ ys x, ys ++ [x] <+: done ++ xs →
      step (whole ys) x = .ok (whole (ys ++ [x]))) →
        xs.foldlM step (whole done) = .ok (whole (done ++ xs))
  | done, [], _ => by rw [List.append_nil]; rfl
  | done, x :: xs, h => by
      have hsplit : done ++ x :: xs = done ++ [x] ++ xs := by simp
      rw [hsplit] at h ⊢
      rw [List.foldlM_cons, h done x (List.prefix_append _ _)]
      exact foldlM_eq_ok whole _ _ h

lemma notMem_of_start {α β : Type} {key : α → β} {xs ys : List α} {x : α}
    (h : (xs.map key).Nodup) (hstart : ys ++ [x] <+: xs) : x ∈ xs ∧ key x ∉ ys.map key := by
  refine ⟨hstart.subset (by simp), ?_⟩
  have hnodup := h.sublist (hstart.sublist.map key)
  rw [List.map_append, List.nodup_append] at hnodup
  exact fun hx => hnodup.2.2 _ hx _ (List.mem_singleton_self _) rfl

/-- **Loading refuses nothing** that a consistent book says. -/
theorem Book.Consistent.toBook {b : Book} (h : b.Consistent) : b.contents.toBook = .ok b := by
  have hcategories : b.categories.foldlM Book.addCategory Book.empty =
      .ok ⟨b.categories, [], []⟩ :=
    foldlM_eq_ok (fun cs => (⟨cs, [], []⟩ : Book)) [] _ fun cs c hc => by
      obtain ⟨hmem, hname⟩ := notMem_of_start h.distinctCategories hc
      exact Book.addCategory_eq_ok.mpr ⟨hname, h.categoryWeights c hmem, rfl⟩
  have hitems : b.items.foldlM Book.addItem ⟨b.categories, [], []⟩ =
      .ok ⟨b.categories, b.items, []⟩ :=
    foldlM_eq_ok (fun is => (⟨b.categories, is, []⟩ : Book)) [] _ fun is i hi => by
      obtain ⟨hmem, hname⟩ := notMem_of_start h.distinctItems hi
      exact Book.addItem_eq_ok.mpr ⟨h.namedItems i hmem, hname, h.knownCategories i hmem,
        h.outOfs i hmem, h.itemWeights i hmem, rfl⟩
  have hstudents : b.students.foldlM Book.addStudent ⟨b.categories, b.items, []⟩ = .ok b :=
    foldlM_eq_ok (fun ss => (⟨b.categories, b.items, ss⟩ : Book)) [] _
      fun ss s hs => Book.addStudent_eq_ok.mpr ⟨(notMem_of_start h.distinctStudents hs).2, rfl⟩
  rw [Contents.toBook]
  change (b.categories.foldlM Book.addCategory Book.empty >>= _) = _
  rw [hcategories]
  change (b.items.foldlM Book.addItem _ >>= _) = _
  rw [hitems]
  exact hstudents

/-! ## Saving and loading -/

namespace Book

variable {b : Book}

lemma parse?_save (b : Book) : Json.parse? b.save = some b.toJson :=
  parse?_print b.regular_toJson

/-- **What is saved is loaded**, or refused.  The text of a book that came about from the empty one
is JSON for the value of the book.  If the marks are finite and the numbers come back from their own
text, it is loaded as that very book; if a mark is not finite, it is refused as a whole. -/
theorem load_save (h : b.Reachable) :
    Json.parse? b.save = some b.toJson ∧
    ((∀ s ∈ b.students, ∀ e ∈ s.marks.entries, e.2.isFinite = true) →
      (∀ x ∈ b.numbers, Keeps x) → load b.save = .ok b) ∧
    ((∃ s ∈ b.students, ∃ e ∈ s.marks.entries, e.2.isFinite = false) →
      load b.save = .error .malformedFile) := by
  refine ⟨parse?_save b, fun _ hkeeps => ?_, ?_⟩
  · rw [load, parse?_save, Option.bind_some, Contents.ofJson?_toJson hkeeps]
    exact h.consistent.toBook
  · rintro ⟨s, hs, e, he, hinfinite⟩
    rw [load, parse?_save, Option.bind_some, Contents.ofJson?_of_not_finite hs he hinfinite]

/-- A book with escapes, absent texts and numbers of every layout. -/
def storedChanges : List Change := [
  .addCategory ⟨"Exams \"A\"\t\u0001é", 2.5⟩,
  .addItem ⟨"Test 1", some "Exams \"A\"\t\u0001é", 40, 1, none⟩,
  .addItem ⟨"Total", none, 1e20, 0, some "[Test 1] \\ 2"⟩,
  .addStudent ⟨"s", "Sam\n😀", .empty⟩,
  .record "s" "Test1" 37.25,
  .setScore "s" "gone" 1e-7]

/-- The book is loaded as it was saved, until a mark is entered that is no number. -/
theorem stored_load_save :
    let b := empty.replay storedChanges
    let b' := empty.replay (storedChanges ++ [.setScore "s" "gone" (0 / 0)])
    b.numbers = [2.5, 40, 1, 1e20, 0, 37.25, 1e-7] ∧ load b.save = .ok b ∧
      load b'.save = .error .malformedFile := by
  intro b b'
  have hfinite : ∀ s ∈ b.students, ∀ e ∈ s.marks.entries, e.2.isFinite = true := by decide +kernel
  have hkeeps : ∀ x ∈ b.numbers, (parse? (ofFloat x).print).bind number? = some x := by
    decide +kernel
  have hinfinite : ∃ s ∈ b'.students, ∃ e ∈ s.marks.entries, e.2.isFinite = false := by
    decide +kernel
  exact ⟨by decide +kernel, (load_save ⟨storedChanges, rfl⟩).2.1 hfinite hkeeps,
    (load_save ⟨_, rfl⟩).2.2 hinfinite⟩

end Book

end Markbook
