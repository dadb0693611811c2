import Mathlib.Data.List.Nodup
import Markbook.Book.History
import Markbook.Proofs.Name

/-!
# Books stay consistent

Whatever happens to a book, its items can be told apart by their plain names, its categories by
their names and its students by their ids; items belong to categories that exist, and all numbers
are in range.  Every change keeps this up, whether it extends the book by one thing, enters a mark
or loads a whole file, so it holds of every book that came about from the empty one.

* `Consistent` — the invariant.
* `Consistent.apply` — a change keeps it.
* `Reachable.consistent` — it holds of every book that can come about.
-/

namespace Markbook

/-! ## Finding things by a key -/

/-- Where no two elements have the same key, looking for the key of an element finds it. -/
lemma find?_key_eq_some {α : Type} {key : α → String} : ∀ {xs : List α} {k : String} {x : α},
    (xs.map key).Nodup → (xs.find? (key · == k) = some x ↔ x ∈ xs ∧ key x = k)
  | [], k, x, _ => by simp
  | y :: rest, k, x, h => by
      obtain ⟨hy, hrest⟩ := List.nodup_cons.mp h
      have ih := find?_key_eq_some (k := k) (x := x) hrest
      by_cases hk : key y = k
      · have hfound : (y :: rest).find? (key · == k) = some y := by simp [hk]
        rw [hfound, Option.some.injEq]
        constructor
        · rintro rfl
          exact ⟨List.mem_cons_self, hk⟩
        · rintro ⟨hx, hxk⟩
          rcases List.mem_cons.mp hx with rfl | hx
          · rfl
          · exact absurd (List.mem_map.mpr ⟨x, hx, hxk.trans hk.symm⟩) hy
      · have hskip : (y :: rest).find? (key · == k) = rest.find? (key · == k) := by simp [hk]
        rw [hskip, ih, List.mem_cons]
        constructor
        · exact fun ⟨hx, hxk⟩ => ⟨Or.inr hx, hxk⟩
        · rintro ⟨rfl | hx, hxk⟩
          · exact absurd hxk hk
          · exact ⟨hx, hxk⟩

namespace Book

/-! ## The invariant -/

/-- What holds of every book. -/
structure Consistent (b : Book) : Prop where
  namedItems : ∀ i ∈ b.items, normalize i.name ≠ ""
  distinctItems : (b.items.map fun i => normalize i.name).Nodup
  distinctCategories : (b.categories.map (·.name)).Nodup
  distinctStudents : (b.students.map (·.id)).Nodup
  knownCategories : ∀ i ∈ b.items, ∀ name ∈ i.category, name ∈ b.categories.map (·.name)
  outOfs : ∀ i ∈ b.items, isOutOf i.outOf = true
  itemWeights : ∀ i ∈ b.items, isWeight i.weight = true
  categoryWeights : ∀ c ∈ b.categories, isWeight c.weight = true

variable {b b' : Book}

/-! ## Finding things -/

lemma item?_eq_none {name : String} :
    b.item? name = none ↔ normalize name ∉ b.items.map fun i => normalize i.name := by
  simp [item?, List.find?_eq_none]

lemma category?_eq_none {name : String} :
    b.category? name = none ↔ name ∉ b.categories.map (·.name) := by
  simp [category?, List.find?_eq_none]

lemma student?_eq_none {id : String} :
    b.student? id = none ↔ id ∉ b.students.map (·.id) := by
  simp [student?, List.find?_eq_none]

lemma id_of_student? {id : String} {s : Student} (h : b.student? id = some s) : s.id = id := by
  simpa using List.find?_some h

/-! ## Extending a list of distinct things -/

lemma nodup_map_concat {α β : Type} {key : α → β} {xs : List α} {x : α}
    (h : (xs.map key).Nodup) (hx : key x ∉ xs.map key) : ((xs ++ [x]).map key).Nodup := by
  rw [List.map_append, List.map_singleton]
  exact List.nodup_append.mpr ⟨h, List.nodup_singleton _, fun y hy z hz heq => hx (by
    rwa [← List.mem_singleton.mp hz, ← heq])⟩

lemma forall_mem_concat {α : Type} {p : α → Prop} {xs : List α} {x : α}
    (h : ∀ y ∈ xs, p y) (hx : p x) : ∀ y ∈ xs ++ [x], p y := by
  intro y hy
  rcases List.mem_append.mp hy with hy | hy
  · exact h y hy
  · rwa [List.mem_singleton.mp hy]

/-! ## One change -/

lemma consistent_empty : empty.Consistent where
  namedItems := by simp [empty]
  distinctItems := List.nodup_nil
  distinctCategories := List.nodup_nil
  distinctStudents := List.nodup_nil
  knownCategories := by simp [empty]
  outOfs := by simp [empty]
  itemWeights := by simp [empty]
  categoryWeights := by simp [empty]

lemma addCategory_eq_ok {c : Category} : b.addCategory c = .ok b' ↔
    c.name ∉ b.categories.map (·.name) ∧ isWeight c.weight = true ∧
      b' = { b with categories := b.categories ++ [c] } := by
  rw [← category?_eq_none]
  cases hname : b.category? c.name with
  | some other => simp [addCategory, hname]
  | none => cases hweight : isWeight c.weight <;> simp [addCategory, hname, hweight, eq_comm]

lemma missingCategory?_eq_none {i : Item} : b.missingCategory? i = none ↔
    ∀ name ∈ i.category, name ∈ b.categories.map (·.name) := by
  cases hcategory : i.category with
  | none => simp [missingCategory?, hcategory]
  | some name =>
      have hnone : b.category? name = none ↔ name ∉ b.categories.map (·.name) := category?_eq_none
      simp only [missingCategory?, hcategory, Option.filter_some, Option.mem_def, Option.some.injEq,
        forall_eq']
      cases hfind : b.category? name with
      | none => simpa [hfind] using hnone
      | some c => simpa [hfind] using hnone

/-- What a book must satisfy for an item to be added, and what comes of it. -/
lemma addItem_eq_ok {i : Item} : b.addItem i = .ok b' ↔
    normalize i.name ≠ "" ∧ normalize i.name ∉ (b.items.map fun i => normalize i.name) ∧
      (∀ name ∈ i.category, name ∈ b.categories.map (·.name)) ∧ isOutOf i.outOf = true ∧
      isWeight i.weight = true ∧ b' = { b with items := b.items ++ [i] } := by
  rw [← item?_eq_none, ← missingCategory?_eq_none, addItem]
  by_cases hblank : normalize i.name = ""
  · simp [hblank]
  rw [if_neg hblank]
  cases hname : b.item? i.name with
  | some other => simp
  | none =>
      cases hmissing : b.missingCategory? i with
      | some category => simp
      | none =>
          cases houtOf : isOutOf i.outOf with
          | false => simp
          | true => cases hweight : isWeight i.weight <;> simp [hblank, eq_comm (b := b')]

lemma addStudent_eq_ok {s : Student} : b.addStudent s = .ok b' ↔
    s.id ∉ b.students.map (·.id) ∧ b' = { b with students := b.students ++ [s] } := by
  rw [← student?_eq_none]
  cases hid : b.student? s.id <;> simp [addStudent, hid, eq_comm]

/-- What it takes to enter a mark for an item, and what comes of it. -/
lemma record_eq_ok {id item : String} {score : Float} : b.record id item score = .ok b' ↔
    ∃ found, b.item? item = some found ∧ found.isComputed = false ∧
      (b.student? id).isSome = true ∧
      b' = b.modifyStudent id fun s => { s with marks := s.marks.set found.name score } := by
  rw [record]
  cases hitem : b.item? item with
  | none => simp
  | some found =>
      cases hcomputed : found.isComputed with
      | true => simp [hcomputed]
      | false =>
          cases hid : b.student? id <;>
            simp [hcomputed, setScore?, hid, eq_comm (b := b')]

lemma Consistent.addCategory {c : Category} (h : b.Consistent) (hadd : b.addCategory c = .ok b') :
    b'.Consistent := by
  obtain ⟨hname, hweight, rfl⟩ := addCategory_eq_ok.mp hadd
  exact { h with
    distinctCategories := nodup_map_concat h.distinctCategories hname
    knownCategories := fun i hi name hcategory => by
      rw [List.map_append]
      exact List.mem_append_left _ (h.knownCategories i hi name hcategory)
    categoryWeights := forall_mem_concat h.categoryWeights hweight }

lemma Consistent.addItem {i : Item} (h : b.Consistent) (hadd : b.addItem i = .ok b') :
    b'.Consistent := by
  obtain ⟨hblank, hname, hcategory, houtOf, hweight, rfl⟩ := addItem_eq_ok.mp hadd
  exact { h with
    namedItems := forall_mem_concat h.namedItems hblank
    distinctItems := nodup_map_concat h.distinctItems hname
    knownCategories := forall_mem_concat h.knownCategories hcategory
    outOfs := forall_mem_concat h.outOfs houtOf
    itemWeights := forall_mem_concat h.itemWeights hweight }

lemma Consistent.addStudent {s : Student} (h : b.Consistent) (hadd : b.addStudent s = .ok b') :
    b'.Consistent := by
  obtain ⟨hid, rfl⟩ := addStudent_eq_ok.mp hadd
  exact { h with distinctStudents := nodup_map_concat h.distinctStudents hid }

/-- A change of students that leaves their ids alone keeps a book consistent. -/
lemma Consistent.modifyStudent {id : String} {change : Student → Student} (h : b.Consistent)
    (hchange : ∀ s, (change s).id = s.id) : (b.modifyStudent id change).Consistent := by
  have hids : (b.modifyStudent id change).students.map (·.id) = b.students.map (·.id) := by
    simp only [Book.modifyStudent, List.map_map]
    refine List.map_congr_left fun s _ => ?_
    simp only [Function.comp_apply]
    split_ifs <;> simp [hchange]
  exact { h with distinctStudents := hids ▸ h.distinctStudents }

lemma Consistent.setScore? {id item : String} {score : Float} (h : b.Consistent)
    (hset : b.setScore? id item score = some b') : b'.Consistent := by
  obtain ⟨_, _, rfl⟩ := Option.map_eq_some_iff.mp hset
  exact h.modifyStudent fun _ => rfl

lemma Consistent.record {id item : String} {score : Float} (h : b.Consistent)
    (hrecord : b.record id item score = .ok b') : b'.Consistent := by
  obtain ⟨_, _, _, _, rfl⟩ := record_eq_ok.mp hrecord
  exact h.modifyStudent fun _ => rfl

/-! ## Loading a file -/

lemma consistent_foldlM {α : Type} {step : Book → α → Except BookError Book}
    (hstep : ∀ {b b' : Book} {x : α}, b.Consistent → step b x = .ok b' → b'.Consistent) :
    ∀ (xs : List α) {b b' : Book}, b.Consistent → xs.foldlM step b = .ok b' → b'.Consistent
  | [], b, b', h, hfold => by
      cases hfold
      exact h
  | x :: xs, b, b', h, hfold => by
      rw [List.foldlM_cons] at hfold
      cases hx : step b x with
      | error e =>
          rw [hx] at hfold
          cases hfold
      | ok b₁ =>
          rw [hx] at hfold
          exact consistent_foldlM hstep xs (hstep h hx) hfold

/-- A book that is loaded is built from the empty one. -/
lemma consistent_load {content : String} (hload : load content = .ok b) : b.Consistent := by
  rw [load] at hload
  cases hread : (Json.parse? content).bind Contents.ofJson? with
  | none => simp [hread] at hload
  | some contents =>
      simp only [hread, Contents.toBook] at hload
      cases hcategories : contents.categories.foldlM Book.addCategory empty with
      | error e =>
          rw [hcategories] at hload
          cases hload
      | ok b₁ =>
          rw [hcategories] at hload
          have h₁ := consistent_foldlM Consistent.addCategory _ consistent_empty hcategories
          change (contents.items.foldlM Book.addItem b₁ >>= _) = _ at hload
          cases hitems : contents.items.foldlM Book.addItem b₁ with
          | error e =>
              rw [hitems] at hload
              cases hload
          | ok b₂ =>
              rw [hitems] at hload
              have h₂ := consistent_foldlM Consistent.addItem _ h₁ hitems
              exact consistent_foldlM Consistent.addStudent _ h₂ hload

/-! ## Whole histories -/

/-- **A change keeps a book consistent.** -/
lemma Consistent.apply {c : Change} (h : b.Consistent) (happly : b.apply c = .ok b') :
    b'.Consistent := by
  cases c with
  | addCategory c => exact h.addCategory happly
  | addItem i => exact h.addItem happly
  | addStudent s => exact h.addStudent happly
  | record id item score => exact h.record happly
  | setScore id item score =>
      cases hset : b.setScore? id item score with
      | none =>
          simp only [Book.apply, hset, Option.getD_none, Except.ok.injEq] at happly
          exact happly ▸ h
      | some changed =>
          simp only [Book.apply, hset, Option.getD_some, Except.ok.injEq] at happly
          exact happly ▸ h.setScore? hset
  | load content => exact consistent_load happly

lemma Consistent.applyOrKeep (h : b.Consistent) (c : Change) : (b.applyOrKeep c).Consistent := by
  rw [Book.applyOrKeep]
  cases happly : b.apply c with
  | ok b' => exact h.apply happly
  | error e => exact h

/-- **Every book that can come about is consistent**, by induction on its history. -/
theorem Reachable.consistent (h : b.Reachable) : b.Consistent := by
  obtain ⟨changes, rfl⟩ := h
  exact List.foldlRecOn (motive := Consistent) changes _ consistent_empty
    fun _ h c _ => h.applyOrKeep c

end Book

end Markbook
