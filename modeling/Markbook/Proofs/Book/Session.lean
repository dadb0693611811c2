import Markbook.Book.Session
import Markbook.Proofs.Book.Invariant
import Markbook.Proofs.Decimal.Binary

/-!
# Refused calls leave the book alone

A call changes the book in place, so a call that is refused half way could leave a book that nobody
asked for.  None does.  Every call does to the book what the function of the same name says: it
answers with the same error and changes nothing, or it changes the book into the new one.

Loading is the one call that has several steps.  Filling a book from a file may stop anywhere, and
the book is then filled in part; the book that is replaced has no share in this.

* `settle` — what a caller sees of a function that may refuse.
* `run_edit` — calls do what the functions say.
* `session_eq_replay`, `session_consistent` — the books that come about in place.
-/

namespace Markbook

namespace Edit

variable {b : Book} {e : BookError}

/-! ## Steps of a call -/

section

variable {α : Type}

@[simp] lemma run_get_bind {k : Book → Edit α} : (get >>= k).run b = (k b).run b := rfl

@[simp] lemma run_pure_bind {k : Unit → Edit α} : (pure () >>= k).run b = (k ()).run b := rfl

@[simp] lemma run_throw : (throw e : Edit α).run b = (.error e, b) := rfl

@[simp] lemma run_modify {change : Book → Book} :
    (modify change : Edit Unit).run b = (.ok (), change b) := rfl

@[simp] lemma run_refuseIf_bind {wrong : Bool} {k : Unit → Edit α} :
    (refuseIf wrong e >>= k).run b = if wrong then (.error e, b) else (k ()).run b := by
  cases wrong <;> rfl

lemma run_bind_of_ok {x : Edit Unit} {k : Unit → Edit α} {b' : Book}
    (h : x.run b = (.ok (), b')) : (x >>= k).run b = (k ()).run b' := by
  rw [ExceptT.run_bind]
  exact congrArg (fun r => (ExceptT.bindCont k r.1) r.2) h

lemma run_bind_of_error {x : Edit Unit} {k : Unit → Edit α} {b' : Book}
    (h : x.run b = (.error e, b')) : (x >>= k).run b = (.error e, b') := by
  rw [ExceptT.run_bind]
  exact congrArg (fun r => (ExceptT.bindCont k r.1) r.2) h

end

/-! ## Calls -/

/-- What a caller sees of a function that may refuse: its error and the old book, or the new
book. -/
def settle (b : Book) : Except BookError Book → Except BookError Unit × Book
  | .ok b' => (.ok (), b')
  | .error e => (.error e, b)

@[simp] lemma settle_ok {b' : Book} : settle b (.ok b') = (.ok (), b') := rfl

@[simp] lemma settle_error : settle b (.error e) = (.error e, b) := rfl

@[simp] lemma settle_ite {p : Prop} [Decidable p] {r r' : Except BookError Book} :
    settle b (if p then r else r') = if p then settle b r else settle b r' :=
  apply_ite _ _ _ _

lemma run_addCategory (c : Category) : (addCategory c).run b = settle b (b.addCategory c) := by
  simp [addCategory, Book.addCategory]

lemma run_checkCategory_bind {i : Item} {k : Unit → Edit Unit} :
    (checkCategory i >>= k).run b =
      match b.missingCategory? i with
      | some name => (.error (.unknownCategory i.name name), b)
      | none => (k ()).run b := by
  rw [checkCategory, Book.missingCategory?]
  cases i.category with
  | none => rfl
  | some name => cases hname : b.category? name <;> simp [hname, Option.filter]

lemma run_addItem (i : Item) : (addItem i).run b = settle b (b.addItem i) := by
  rw [addItem, Book.addItem]
  cases hmissing : b.missingCategory? i <;> simp [run_checkCategory_bind, hmissing]

lemma run_addStudent (s : Student) : (addStudent s).run b = settle b (b.addStudent s) := by
  simp [addStudent, Book.addStudent]

lemma run_setScore (id item : String) (score : Float) :
    (setScore id item score).run b = (.ok (), (b.setScore? id item score).getD b) := by
  rw [setScore, run_get_bind, Book.setScore?]
  cases b.student? id <;> rfl

lemma run_record (id item : String) (score : Float) :
    (record id item score).run b = settle b (b.record id item score) := by
  rw [record, Book.record, run_get_bind]
  cases b.item? item with
  | none => rfl
  | some found => cases hid : b.student? id <;> simp [Book.setScore?, hid, enterMark]

/-! ## Loading -/

/-- The answer of a call, whatever becomes of the book where it fails. -/
def Answers (edit : Edit Unit) (b : Book) : Except BookError Book → Prop
  | .ok b' => edit.run b = (.ok (), b')
  | .error e => ∃ b', edit.run b = (.error e, b')

lemma answers_settle {edit : Edit Unit} {r : Except BookError Book}
    (h : edit.run b = settle b r) : Answers edit b r := by
  cases r with
  | ok b' => exact h
  | error e => exact ⟨b, h⟩

lemma Answers.bind {x : Edit Unit} {k : Unit → Edit Unit} {r : Except BookError Book}
    {f : Book → Except BookError Book} (hx : Answers x b r) (hk : ∀ b', Answers (k ()) b' (f b')) :
    Answers (x >>= k) b (r >>= f) := by
  cases r with
  | error e =>
      obtain ⟨b', hrun⟩ := hx
      exact ⟨b', run_bind_of_error hrun⟩
  | ok b' =>
      have hrun : x.run b = (.ok (), b') := hx
      change Answers (x >>= k) b (f b')
      have hrest := hk b'
      cases hf : f b' with
      | error e =>
          rw [hf] at hrest
          obtain ⟨b'', hrest⟩ := hrest
          exact ⟨b'', (run_bind_of_ok hrun).trans hrest⟩
      | ok b'' =>
          rw [hf] at hrest
          exact (run_bind_of_ok hrun).trans hrest

/-- Several calls answer as the functions do one after the other. -/
lemma answers_forM {α : Type} {edit : α → Edit Unit} {f : Book → α → Except BookError Book}
    (h : ∀ x b, (edit x).run b = settle b (f b x)) :
    ∀ (xs : List α) (b : Book), Answers (xs.forM edit) b (xs.foldlM f b)
  | [], _ => rfl
  | x :: xs, b => by
      rw [List.foldlM_cons]
      exact (answers_settle (h x b)).bind (answers_forM h xs)

lemma answers_fill (c : Contents) : Answers (fill c) Book.empty c.toBook :=
  (answers_forM (fun c _ => run_addCategory c) _ _).bind fun b =>
    (answers_forM (fun i _ => run_addItem i) _ b).bind fun b =>
      answers_forM (fun s _ => run_addStudent s) _ b

lemma run_load (content : String) : (load content).run b = settle b (Book.load content) := by
  rw [load, Book.load]
  cases (Json.parse? content).bind Contents.ofJson? with
  | none => rfl
  | some contents =>
      have hfill := answers_fill contents
      cases hbook : contents.toBook with
      | ok filled =>
          rw [hbook] at hfill
          have hrun : (fill contents).run Book.empty = (.ok (), filled) := hfill
          simp only [hrun]
          exact hbook ▸ rfl
      | error e =>
          rw [hbook] at hfill
          obtain ⟨left, hrun⟩ := hfill
          simp only [hrun]
          exact hbook ▸ rfl

end Edit

/-! ## Sessions -/

open Edit (settle)

/-- **Calls do what the functions say**, and a call that is refused leaves the book as it was. -/
theorem run_edit (b : Book) (c : Change) : c.edit.run b = settle b (b.apply c) := by
  cases c with
  | addCategory c => exact Edit.run_addCategory c
  | addItem i => exact Edit.run_addItem i
  | addStudent s => exact Edit.run_addStudent s
  | record id item score => exact Edit.run_record id item score
  | setScore id item score => exact Edit.run_setScore id item score
  | load content => exact Edit.run_load content

namespace Book

/-- Working in place and replaying a history come to the same book. -/
theorem session_eq_replay (b : Book) (changes : List Change) :
    b.session changes = b.replay changes := by
  have hstep : (fun (b : Book) (c : Change) => (c.edit.run b).2) = applyOrKeep := by
    funext b c
    rw [run_edit, applyOrKeep]
    cases b.apply c <;> rfl
  rw [session, replay, hstep]

/-- What may be the maximum of an item is a number greater than zero. -/
lemma isFinite_and_pos_of_isOutOf {x : Float} (h : isOutOf x = true) :
    x.isFinite = true ∧ 0 < x := by
  obtain ⟨hfinite, hpos⟩ := (Bool.and_eq_true _ _).mp h
  exact ⟨hfinite, pos_of_not_le hfinite (by simpa using hpos)⟩

/-- **A book stays consistent through a whole session**, whatever is asked for and however much of
it is refused; and at any time a call that is refused leaves the book exactly as it was. -/
theorem session_consistent (changes : List Change) :
    let b := empty.session changes
    b.Consistent ∧ (∀ i ∈ b.items, i.outOf.isFinite = true ∧ 0 < i.outOf) ∧
      ∀ (c : Change) (e : BookError), (c.edit.run b).1 = .error e → (c.edit.run b).2 = b := by
  intro b
  have hb : b.Consistent := Reachable.consistent ⟨changes, (session_eq_replay _ _).symm⟩
  refine ⟨hb, fun i hi => isFinite_and_pos_of_isOutOf (hb.outOfs i hi), fun c e herror => ?_⟩
  rw [run_edit] at herror ⊢
  cases happly : b.apply c with
  | ok b' =>
      rw [happly] at herror
      cases herror
  | error e' => rfl

end Book

end Markbook
