import Mathlib.Data.List.Nodup
import Markbook.Bindings
import Markbook.Proofs.Name

/-!
# Looking names up

Bindings are a list, but what is read from them is a partial function on plain names, and binding a
name changes that function at this name only.  When several names are bound one after the other and
no two of them are the same, their order does not matter.

* `get?_bind`, `get?_extend_of_mem`, `get?_extend_of_notMem` — looking up after binding.
* `get?_ofList_eq_some` — what a table made from distinct names holds.
* `mem_names`, `contains_eq_isSome` — the names that are bound are those with a score.
* `lastScore?`, `get?_ofList` — whatever is bound in whatever order, the last score of a name
  counts.
-/

namespace Markbook

namespace Bindings

variable {b : Bindings} {m n : String} {x : Float}

/-- A name is looked up under its plain form. -/
lemma get?_congr (h : normalize m = normalize n) : b.get? m = b.get? n := by
  simp only [get?, sameName, h]

lemma find?_insertEntry : ∀ entries : List Binding,
    ((insertEntry m x entries).2.find? (sameName ·.name n)).map (·.score) =
      if normalize m = normalize n then some x
      else (entries.find? (sameName ·.name n)).map (·.score)
  | [] => by
      by_cases h : normalize m = normalize n <;> simp [insertEntry, sameName, h]
  | e :: rest => by
      have ih := find?_insertEntry rest
      rw [insertEntry]
      by_cases hem : normalize e.name = normalize m
      · by_cases hmn : normalize m = normalize n <;> simp [sameName, hem, hmn]
      · by_cases hen : normalize e.name = normalize n
        · have hmn : normalize m ≠ normalize n := fun h => hem (hen.trans h.symm)
          simp [sameName, hen, hmn, hmn.symm]
        · simpa [sameName, hem, hen] using ih

/-- Binding a name changes what is found under this name only. -/
lemma get?_bind : (b.bind m x).get? n = if normalize m = normalize n then some x else b.get? n :=
  find?_insertEntry b.entries

lemma get?_bind_of_ne (h : normalize m ≠ normalize n) : (b.bind m x).get? n = b.get? n := by
  rw [get?_bind, if_neg h]

lemma get?_extend_of_notMem : ∀ {scores : List (String × Float)} {b : Bindings},
    (∀ e ∈ scores, normalize e.1 ≠ normalize n) → (b.extend scores).get? n = b.get? n
  | [], _, _ => rfl
  | e :: rest, b, h => by
      have hrest := get?_extend_of_notMem (b := b.bind e.1 e.2)
        fun e' he' => h e' (List.mem_cons_of_mem e he')
      exact hrest.trans (get?_bind_of_ne (h e List.mem_cons_self))

lemma get?_extend_of_mem : ∀ {scores : List (String × Float)} {b : Bindings},
    (scores.map fun e => normalize e.1).Nodup → (m, x) ∈ scores → normalize m = normalize n →
      (b.extend scores).get? n = some x
  | e :: rest, b, hnodup, hmem, hmn => by
      obtain ⟨hnew, hnodup⟩ := List.nodup_cons.mp hnodup
      rcases List.mem_cons.mp hmem with rfl | hmem
      · have hrest : ∀ e' ∈ rest, normalize e'.1 ≠ normalize n := fun e' he' heq =>
          hnew (List.mem_map.mpr ⟨e', he', heq.trans hmn.symm⟩)
        have hlookup := get?_extend_of_notMem (b := b.bind m x) hrest
        exact hlookup.trans (by rw [get?_bind, if_pos hmn])
      · exact get?_extend_of_mem (b := b.bind e.1 e.2) hnodup hmem hmn

/-- A table made from distinct names holds exactly the scores it is made from. -/
lemma get?_ofList_eq_some {scores : List (String × Float)}
    (hnodup : (scores.map fun e => normalize e.1).Nodup) :
    (ofList scores).get? n = some x ↔ ∃ m, (m, x) ∈ scores ∧ normalize m = normalize n := by
  constructor
  · intro h
    by_cases hn : ∃ e ∈ scores, normalize e.1 = normalize n
    · obtain ⟨⟨m, y⟩, hmem, hmn⟩ := hn
      have hy : (ofList scores).get? n = some y := get?_extend_of_mem hnodup hmem hmn
      obtain rfl : y = x := Option.some.inj (hy.symm.trans h)
      exact ⟨m, hmem, hmn⟩
    · have hnone : (ofList scores).get? n = none :=
        get?_extend_of_notMem fun e he heq => hn ⟨e, he, heq⟩
      rw [hnone] at h
      cases h
  · rintro ⟨m, hmem, hmn⟩
    exact get?_extend_of_mem hnodup hmem hmn

/-! ## Which names are bound -/

lemma isSome_get? : (b.get? n).isSome = true ↔ normalize n ∈ b.names.map normalize := by
  simp [get?, names, List.find?_isSome]

/-- The plain forms of the bound names are the plain names with a score. -/
lemma mem_names : n ∈ b.names.map normalize ↔ normalize n = n ∧ (b.get? n).isSome = true := by
  rw [isSome_get?]
  constructor
  · intro hn
    obtain ⟨m, _, rfl⟩ := List.mem_map.mp hn
    rw [normalize_normalize]
    exact ⟨rfl, hn⟩
  · rintro ⟨hplain, hn⟩
    rwa [hplain] at hn

lemma contains_eq_isSome : b.contains n = (b.get? n).isSome := by
  rw [contains, get?, Option.isSome_map, Bool.eq_iff_iff, List.any_eq_true, List.find?_isSome]

end Bindings

/-! ## The last score of a name -/

/-- The score that a name is given last in a list of names and scores, under any spelling. -/
def lastScore? (scores : List (String × Float)) (name : String) : Option Float :=
  (scores.reverse.find? (sameName ·.1 name)).map (·.2)

namespace Bindings

variable {b : Bindings} {n : String} {scores : List (String × Float)}

/-- Bindings are changed under the names that are bound, to the last score of each. -/
lemma get?_extend : (b.extend scores).get? n = (lastScore? scores n).or (b.get? n) := by
  induction scores generalizing b with
  | nil => rfl
  | cons e rest ih =>
      have hextend : b.extend (e :: rest) = (b.bind e.1 e.2).extend rest := rfl
      rw [hextend, ih, get?_bind, lastScore?, lastScore?, List.reverse_cons, List.find?_append,
        Option.map_or, Option.or_assoc]
      by_cases h : normalize e.1 = normalize n <;> simp [sameName, h]

/-- **The last score of a name counts**, whatever is bound before and after it. -/
lemma get?_ofList : (ofList scores).get? n = lastScore? scores n := by
  rw [ofList, get?_extend]
  exact Option.or_none

end Bindings

end Markbook
