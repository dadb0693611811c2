import Markbook.Proofs.Book.Invariant
import Markbook.Proofs.Ordered

/-!
# Looking marks up

Marks are written under one spelling and looked for under any.  A mark that is entered is found
under the spelling it was entered with, as the exact spelling comes first, and for every other name
the mark is found that was found before.

Marks of one name may stand under several spellings.  What is found under such a name depends on the
spelling that is looked for, unless all these marks are the same.

* `get?_set_self`, `get?_set_of_ne` — looking up after entering a mark.
* `spelled?_eq_some`, `exists_of_get?` — the marks that are found.
* `Unambiguous`, `unambiguous_iff` — when the spelling does not matter.
-/

namespace Markbook

namespace Marks

variable {m : Marks} {item name : String} {x : Float}

/-! ## Entering a mark -/

/-- A search that passes over the spelling does not see the mark that is entered under it. -/
lemma find?_setEntry_of_not {p : String → Bool} (hp : p item = false) :
    ∀ entries : List (String × Float),
      (setEntry item x entries).find? (p ·.1) = entries.find? (p ·.1)
  | [] => by simp [setEntry, hp]
  | (other, y) :: rest => by
      have ih := find?_setEntry_of_not hp rest
      rw [setEntry]
      split_ifs with heq hbefore
      · subst heq
        simp [hp]
      · simp [hp]
      · simp [List.find?_cons, ih]

lemma find?_setEntry_self : ∀ entries : List (String × Float),
    (setEntry item x entries).find? (·.1 == item) = some (item, x)
  | [] => by simp [setEntry]
  | (other, y) :: rest => by
      have ih := find?_setEntry_self rest
      rw [setEntry]
      split_ifs with heq hbefore
      · simp
      · simp
      · simp [Ne.symm heq, ih]

/-- A mark is found under the spelling it was entered with, whatever other spellings there are. -/
lemma get?_set_self : (m.set item x).get? item = some x := by
  have hspelled : (m.set item x).spelled? item = some x := by
    rw [spelled?, set, find?_setEntry_self, Option.map_some]
  rw [get?, hspelled]

/-- Entering a mark changes what is found under its name only. -/
lemma get?_set_of_ne (h : normalize item ≠ normalize name) :
    (m.set item x).get? name = m.get? name := by
  have hspelled : (m.set item x).spelled? name = m.spelled? name := by
    have hne : (item == name) = false := by
      simpa using fun heq : item = name => h (congrArg normalize heq)
    rw [spelled?, spelled?, set, find?_setEntry_of_not (p := (· == name)) hne]
  have hsame : sameName item name = false := by simpa [sameName] using h
  rw [get?, get?, hspelled, set, find?_setEntry_of_not (p := (sameName · name)) hsame]

/-! ## The marks that are found -/

lemma nodup_entries (m : Marks) : (m.entries.map (·.1)).Nodup :=
  textBefore_strictTotal.nodup (List.pairwise_map.mpr m.ordered)

/-- There is one mark at most under every spelling. -/
lemma spelled?_eq_some : m.spelled? item = some x ↔ (item, x) ∈ m.entries := by
  simp only [spelled?, Option.map_eq_some_iff, find?_key_eq_some m.nodup_entries]
  constructor
  · rintro ⟨e, ⟨he, rfl⟩, rfl⟩
    exact he
  · exact fun he => ⟨_, ⟨he, rfl⟩, rfl⟩

lemma get?_of_mem (h : (item, x) ∈ m.entries) : m.get? item = some x := by
  rw [get?, spelled?_eq_some.mpr h]

/-- A mark that is found stands under some spelling of the name. -/
lemma exists_of_get? (h : m.get? item = some x) :
    ∃ other, (other, x) ∈ m.entries ∧ normalize other = normalize item := by
  rw [get?] at h
  cases hspelled : m.spelled? item with
  | some y =>
      obtain rfl : y = x := by simpa [hspelled] using h
      exact ⟨item, spelled?_eq_some.mp hspelled, rfl⟩
  | none =>
      obtain ⟨⟨other, y⟩, he, rfl⟩ := Option.map_eq_some_iff.mp (by simpa only [hspelled] using h)
      exact ⟨other, List.mem_of_find?_eq_some he, by simpa using List.find?_some he⟩

lemma isSome_get? {e : String × Float} (he : e ∈ m.entries)
    (hname : normalize e.1 = normalize item) : (m.get? item).isSome = true := by
  rw [get?]
  cases m.spelled? item with
  | some y => rfl
  | none =>
      rw [Option.isSome_map, List.find?_isSome]
      exact ⟨e, he, sameName_iff.mpr hname⟩

/-! ## Marks of one name -/

/-- All marks under spellings of the name are the same. -/
def Unambiguous (m : Marks) (item : String) : Prop :=
  ∀ e ∈ m.entries, ∀ e' ∈ m.entries, sameName e.1 item = true → sameName e'.1 item = true →
    e.2 = e'.2

instance : Decidable (m.Unambiguous item) :=
  inferInstanceAs (Decidable (∀ e ∈ m.entries, ∀ e' ∈ m.entries, _ → _ → _))

/-- If all marks of a name are the same, they are what is found under every spelling. -/
lemma Unambiguous.get?_eq_some (h : m.Unambiguous item) (hname : normalize name = normalize item) :
    m.get? name = some x ↔ ∃ other, (other, x) ∈ m.entries ∧ normalize other = normalize item := by
  constructor
  · exact fun hx => hname ▸ exists_of_get? hx
  · rintro ⟨other, he, hother⟩
    obtain ⟨y, hy⟩ := Option.isSome_iff_exists.mp (isSome_get? he (hother.trans hname.symm))
    obtain ⟨other', he', hother'⟩ := exists_of_get? hy
    have hsame : x = y :=
      h _ he _ he' (sameName_iff.mpr hother) (sameName_iff.mpr (hother'.trans hname))
    rw [hy, hsame]

/-- **The spelling does not matter if all marks of the name are the same**, and only then. -/
theorem unambiguous_iff : m.Unambiguous item ↔
    ∀ name, normalize name = normalize item → m.get? name = m.get? item := by
  constructor
  · intro h name hname
    refine Option.ext fun x => ?_
    rw [h.get?_eq_some hname, h.get?_eq_some rfl]
  · intro h e he e' he' hname hname'
    have hfound := (h e.1 (sameName_iff.mp hname)).trans (h e'.1 (sameName_iff.mp hname')).symm
    rw [get?_of_mem he, get?_of_mem he'] at hfound
    exact Option.some.inj hfound

end Marks

end Markbook
