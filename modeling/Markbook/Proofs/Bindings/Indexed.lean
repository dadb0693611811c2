import Mathlib.Data.Finset.Card
import Markbook.Bindings.Indexed
import Markbook.Proofs.Bindings

/-!
# The index stays in step

A table with an index stands for the bindings it has as entries if no two of the entries have the
same name and the index knows the place of each.  Looking up by way of the index then finds what a
search through the entries finds.  Binding a name keeps this so: where the name is known, its entry
gets another spelling and another score, but the names in plain form are what they were.

What the entries are after several calls is told by the names and scores that were bound, without
any table: each name stands where it was bound first and is spelled as it was bound last.

* `StandsFor` — a table with an index in step, `StandsFor.insert` binding a name.
* `standsFor_replay` — tables with an index stand for tables without one.
* `keys_ofList`, `spelled_ofList` — the order of the names and their spelling.
* `Records`, `replay_records` — **what a table holds after several calls**.
-/

namespace Markbook

/-- The plain name of an entry. -/
def Binding.key (e : Binding) : String :=
  normalize e.name

/-! ## Binding a name among entries -/

namespace Bindings

variable {entries : List Binding} {n : String} {x : Float}

/-- Where a name is bound already, its entry is written over. -/
lemma insertEntry_of_getElem? {i : Nat} {e : Binding} (hnodup : (entries.map Binding.key).Nodup)
    (hi : entries[i]? = some e) (he : e.key = normalize n) :
    insertEntry n x entries = (some e.score, entries.set i ⟨n, x⟩) := by
  induction entries generalizing i with
  | nil => simp at hi
  | cons d rest ih =>
      obtain ⟨hnew, hnodup⟩ := List.nodup_cons.mp hnodup
      cases i with
      | zero =>
          obtain rfl : d = e := by simpa using hi
          have hsame : sameName d.name n = true := sameName_iff.mpr he
          rw [insertEntry, if_pos hsame, List.set_cons_zero]
      | succ i =>
          have hi : rest[i]? = some e := by simpa using hi
          have hother : ¬ sameName d.name n = true := by
            intro hd
            have hkey : e.key = d.key := he.trans (sameName_iff.mp hd).symm
            exact hnew (List.mem_map.mpr ⟨e, List.mem_of_getElem? hi, hkey⟩)
          rw [insertEntry, if_neg hother, ih hnodup hi, List.set_cons_succ]

/-- A name that is not bound yet comes last. -/
lemma insertEntry_of_notMem (h : normalize n ∉ entries.map Binding.key) :
    insertEntry n x entries = (none, entries ++ [⟨n, x⟩]) := by
  induction entries with
  | nil => rfl
  | cons d rest ih =>
      rw [List.map_cons, List.mem_cons, not_or] at h
      obtain ⟨hd, hrest⟩ := h
      have hother : ¬ sameName d.name n = true := fun hsame => hd (sameName_iff.mp hsame).symm
      rw [insertEntry, if_neg hother, ih hrest, List.cons_append]

/-- Writing over an entry of the same name leaves the plain names as they are. -/
lemma map_key_set {i : Nat} {e : Binding} (hi : entries[i]? = some e) (he : e.key = normalize n) :
    (entries.set i ⟨n, x⟩).map Binding.key = entries.map Binding.key := by
  have hkey : (entries.map Binding.key)[i]? = some (normalize n) := by
    rw [List.getElem?_map, hi, Option.map_some, he]
  obtain ⟨hlt, hget⟩ := List.getElem?_eq_some_iff.mp hkey
  calc (entries.set i ⟨n, x⟩).map Binding.key
      = (entries.map Binding.key).set i (normalize n) := List.map_set
    _ = (entries.map Binding.key).set i (entries.map Binding.key)[i] := by rw [hget]
    _ = entries.map Binding.key := List.set_getElem_self hlt

lemma nodup_key_concat (h : normalize n ∉ entries.map Binding.key)
    (hnodup : (entries.map Binding.key).Nodup) :
    ((entries ++ [(⟨n, x⟩ : Binding)]).map Binding.key).Nodup := by
  rw [List.map_append, List.map_singleton, ← List.concat_eq_append]
  exact List.Nodup.concat h hnodup

/-- The plain names after binding a name. -/
lemma map_key_insertEntry (hnodup : (entries.map Binding.key).Nodup) :
    (insertEntry n x entries).2.map Binding.key =
      if normalize n ∈ entries.map Binding.key then entries.map Binding.key
      else entries.map Binding.key ++ [normalize n] := by
  split_ifs with h
  · obtain ⟨e, he, hkey⟩ := List.mem_map.mp h
    obtain ⟨i, hi⟩ := List.mem_iff_getElem?.mp he
    rw [insertEntry_of_getElem? hnodup hi hkey, map_key_set hi hkey]
  · rw [insertEntry_of_notMem h, List.map_append]
    rfl

/-- Plain names stay distinct. -/
lemma nodup_insertEntry (hnodup : (entries.map Binding.key).Nodup) :
    ((insertEntry n x entries).2.map Binding.key).Nodup := by
  by_cases h : normalize n ∈ entries.map Binding.key
  · rwa [map_key_insertEntry hnodup, if_pos h]
  · rw [insertEntry_of_notMem h]
    exact nodup_key_concat h hnodup

/-- After binding a name there is its entry, and there are those of the other names. -/
lemma mem_insertEntry {e : Binding} (hnodup : (entries.map Binding.key).Nodup)
    (he : e ∈ (insertEntry n x entries).2) :
    e = ⟨n, x⟩ ∨ e ∈ entries ∧ e.key ≠ normalize n := by
  induction entries with
  | nil => exact Or.inl (List.mem_singleton.mp he)
  | cons d rest ih =>
      obtain ⟨hnew, hnodup⟩ := List.nodup_cons.mp hnodup
      rw [insertEntry] at he
      split_ifs at he with hsame
      · rcases List.mem_cons.mp he with rfl | he
        · exact Or.inl rfl
        · have hne : e.key ≠ normalize n := fun hkey =>
            hnew (List.mem_map.mpr ⟨e, he, hkey.trans (sameName_iff.mp hsame).symm⟩)
          exact Or.inr ⟨List.mem_cons_of_mem d he, hne⟩
      · rcases List.mem_cons.mp he with rfl | he
        · exact Or.inr ⟨List.mem_cons_self, fun hkey => hsame (sameName_iff.mpr hkey)⟩
        · exact (ih hnodup he).imp id (And.imp_left (List.mem_cons_of_mem d))

/-- Binding a name tells the score that looking it up would have found. -/
lemma insert_fst (b : Bindings) (n : String) (x : Float) : (b.insert n x).1 = b.get? n := by
  have hentries : ∀ entries : List Binding, (insertEntry n x entries).1 =
      (entries.find? (sameName ·.name n)).map (·.score) := by
    intro entries
    induction entries with
    | nil => rfl
    | cons d rest ih =>
        rw [insertEntry, List.find?_cons]
        split_ifs with hsame
        · simp [hsame]
        · simpa [hsame] using ih
  exact hentries b.entries

end Bindings

/-! ## The index in step -/

namespace IndexedBindings

/-- A table with an index that is in step, and the bindings it stands for. -/
structure StandsFor (t : IndexedBindings) (b : Bindings) : Prop where
  entries_eq : t.entries = b.entries
  /-- No two entries have the same name. -/
  nodup : (t.entries.map Binding.key).Nodup
  /-- The index has the names of the entries, each with its place, and no others. -/
  index_iff : ∀ (key : String) (i : Nat),
    t.index[key]? = some i ↔ (t.entries.map Binding.key)[i]? = some key

variable {t : IndexedBindings} {b : Bindings} {n : String} {x : Float}

lemma standsFor_empty : empty.StandsFor Bindings.empty where
  entries_eq := rfl
  nodup := List.nodup_nil
  index_iff := by simp [empty]

lemma entryAt_eq {i : Nat} {e : Binding} (h : t.entries[i]? = some e) : t.entryAt i = .ok e := by
  rw [entryAt, h]

/-- Binding a name goes to the entry to which looking it up would have gone. -/
lemma insert_fst (t : IndexedBindings) (n : String) (x : Float) :
    (·.1) <$> t.insert n x = t.get? n := by
  rw [insert, get?]
  cases t.index[normalize n]? with
  | none => rfl
  | some i =>
      dsimp only
      cases t.entryAt i <;> rfl

namespace StandsFor

/-- Where the index leads to there is the entry of the name. -/
lemma exists_entry (h : t.StandsFor b) {i : Nat} (hi : t.index[normalize n]? = some i) :
    ∃ e, t.entries[i]? = some e ∧ e.key = normalize n := by
  have hkey := (h.index_iff _ _).mp hi
  rw [List.getElem?_map] at hkey
  exact Option.map_eq_some_iff.mp hkey

/-- A name that the index does not have has no entry. -/
lemma notMem_of_index (h : t.StandsFor b) (hi : t.index[normalize n]? = none) :
    normalize n ∉ t.entries.map Binding.key := by
  intro hmem
  obtain ⟨i, hkey⟩ := List.mem_iff_getElem?.mp hmem
  rw [(h.index_iff _ _).mpr hkey] at hi
  cases hi

/-- **Binding a name keeps the index in step**, and the score that the name had is found. -/
theorem insert (h : t.StandsFor b) (n : String) (x : Float) :
    ∃ t', t.insert n x = .ok ((b.insert n x).1, t') ∧ t'.StandsFor (b.bind n x) := by
  have hentries : (b.bind n x).entries = (Bindings.insertEntry n x t.entries).2 := by
    rw [h.entries_eq]
    rfl
  have hprevious : (b.insert n x).1 = (Bindings.insertEntry n x t.entries).1 := by
    rw [h.entries_eq]
    rfl
  cases hi : t.index[normalize n]? with
  | some i =>
      -- the plain names are what they were, and so is the index
      obtain ⟨e, he, hkey⟩ := h.exists_entry hi
      have hinsert := Bindings.insertEntry_of_getElem? (x := x) h.nodup he hkey
      have hkeys := Bindings.map_key_set (x := x) he hkey
      refine ⟨{ t with entries := t.entries.set i ⟨n, x⟩ }, ?_, ?_, ?_, ?_⟩
      · simp only [IndexedBindings.insert, hi, entryAt_eq he, hprevious, hinsert]
        rfl
      · rw [hentries, hinsert]
      · simpa only [hkeys] using h.nodup
      · simpa only [hkeys] using h.index_iff
  | none =>
      have hnew := h.notMem_of_index hi
      have hinsert := Bindings.insertEntry_of_notMem (x := x) hnew
      refine ⟨⟨t.entries ++ [⟨n, x⟩], t.index.insert (normalize n) t.entries.length⟩,
        ?_, ?_, ?_, ?_⟩
      · simp only [IndexedBindings.insert, hi, hprevious, hinsert]
        rfl
      · rw [hentries, hinsert]
      · exact Bindings.nodup_key_concat hnew h.nodup
      · intro key i
        have hkey := h.index_iff key i
        have hlength : (t.entries.map Binding.key).length = t.entries.length := List.length_map _
        rw [Std.HashMap.getElem?_insert, List.map_append, List.map_singleton]
        grind [Binding.key]

lemma bind (h : t.StandsFor b) (n : String) (x : Float) :
    ∃ t', t.bind n x = .ok t' ∧ t'.StandsFor (b.bind n x) := by
  obtain ⟨t', hinsert, h'⟩ := h.insert n x
  exact ⟨t', by rw [IndexedBindings.bind, hinsert]; rfl, h'⟩

/-- Looking up by way of the index finds what a search through the entries finds. -/
lemma get?_eq (h : t.StandsFor b) (n : String) : t.get? n = .ok (b.get? n) := by
  obtain ⟨t', hinsert, _⟩ := h.insert n 0
  rw [← t.insert_fst n 0, hinsert, ← b.insert_fst n 0]
  rfl

lemma contains_iff (h : t.StandsFor b) (n : String) :
    t.contains n = true ↔ normalize n ∈ t.entries.map Binding.key := by
  rw [contains, Std.HashMap.contains_eq_isSome_getElem?]
  cases hi : t.index[normalize n]? with
  | none => simpa using h.notMem_of_index hi
  | some i =>
      obtain ⟨e, he, hkey⟩ := h.exists_entry hi
      simpa using ⟨e, List.mem_of_getElem? he, hkey⟩

end StandsFor

/-! ## Several calls -/

lemma standsFor_extend (scores : List (String × Float)) : ∀ {t : IndexedBindings} {b : Bindings},
    t.StandsFor b → ∃ t', t.extend scores = .ok t' ∧ t'.StandsFor (b.extend scores) := by
  induction scores with
  | nil => exact fun h => ⟨_, rfl, h⟩
  | cons e rest ih =>
      intro t b h
      obtain ⟨t₁, hbind, h₁⟩ := h.bind e.1 e.2
      obtain ⟨t₂, hextend, h₂⟩ := ih h₁
      refine ⟨t₂, ?_, h₂⟩
      rw [extend, List.foldlM_cons, hbind]
      exact hextend

lemma standsFor_apply (c : BindingsCall) (h : t.StandsFor b) :
    ∃ t', t.apply c = .ok t' ∧ t'.StandsFor (b.apply c) := by
  cases c with
  | insert n x => exact h.bind n x
  | extend scores => exact standsFor_extend scores h
  | ofList scores => exact standsFor_extend scores standsFor_empty

lemma standsFor_foldlM (calls : List BindingsCall) : ∀ {t : IndexedBindings} {b : Bindings},
    t.StandsFor b → ∃ t', calls.foldlM apply t = .ok t' ∧
      t'.StandsFor (calls.foldl Bindings.apply b) := by
  induction calls with
  | nil => exact fun h => ⟨_, rfl, h⟩
  | cons c rest ih =>
      intro t b h
      obtain ⟨t₁, happly, h₁⟩ := standsFor_apply c h
      obtain ⟨t₂, hrest, h₂⟩ := ih h₁
      refine ⟨t₂, ?_, h₂⟩
      rw [List.foldlM_cons, happly]
      exact hrest

/-- **After any calls the index is in step**, and the entries are those of the table without one. -/
theorem standsFor_replay (calls : List BindingsCall) :
    ∃ t, replay calls = .ok t ∧ t.StandsFor (Bindings.replay calls) :=
  standsFor_foldlM calls standsFor_empty

end IndexedBindings

/-! ## What the entries are -/

namespace Bindings

lemma ofList_concat (bound : List (String × Float)) (e : String × Float) :
    ofList (bound ++ [e]) = (ofList bound).bind e.1 e.2 := by
  simp only [ofList, extend, List.foldl_append, List.foldl_cons, List.foldl_nil]

/-- Bindings are made of the names and scores that were bound. -/
lemma replay_eq (calls : List BindingsCall) : replay calls = ofList (inserted calls) := by
  induction calls using List.reverseRecOn with
  | nil => rfl
  | append_singleton calls c ih =>
      have hreplay : replay (calls ++ [c]) = (ofList (inserted calls)).apply c := by
        rw [← ih]
        simp only [replay, List.foldl_append, List.foldl_cons, List.foldl_nil]
      have hinserted : inserted (calls ++ [c]) = c.inserted (inserted calls) := by
        simp only [inserted, List.foldl_append, List.foldl_cons, List.foldl_nil]
      rw [hreplay, hinserted]
      cases c with
      | insert n x => exact (ofList_concat (inserted calls) (n, x)).symm
      | extend scores => simp only [apply, BindingsCall.inserted, ofList, extend, List.foldl_append]
      | ofList scores => rfl

lemma nodup_ofList (bound : List (String × Float)) :
    ((ofList bound).entries.map Binding.key).Nodup := by
  induction bound using List.reverseRecOn with
  | nil => exact List.nodup_nil
  | append_singleton bound e ih =>
      rw [ofList_concat]
      exact nodup_insertEntry ih

/-- **Names stand in the order in which they were bound first.** -/
theorem keys_ofList (bound : List (String × Float)) :
    (ofList bound).entries.map Binding.key = (bound.map (normalize ·.1)).eraseDups := by
  induction bound using List.reverseRecOn with
  | nil => rfl
  | append_singleton bound e ih =>
      have hkeys := map_key_insertEntry (n := e.1) (x := e.2) (nodup_ofList bound)
      rw [ofList_concat]
      refine hkeys.trans ?_
      rw [ih, List.map_append, List.map_singleton, List.eraseDups_append, List.removeAll]
      by_cases hmem : normalize e.1 ∈ bound.map (normalize ·.1)
      · rw [if_pos (List.mem_eraseDups.mpr hmem)]
        simp [hmem]
      · rw [if_neg (fun h => hmem (List.mem_eraseDups.mp h))]
        simp [hmem, List.eraseDups_cons]

/-- **Names are spelled as they were bound last**, with the score that they were bound to then. -/
theorem spelled_ofList (bound : List (String × Float)) :
    ∀ e ∈ (ofList bound).toList, bound.reverse.find? (sameName ·.1 e.1) = some e := by
  induction bound using List.reverseRecOn with
  | nil => simp [ofList, extend, empty, toList]
  | append_singleton bound e ih =>
      intro f hf
      rw [ofList_concat] at hf
      obtain ⟨d, hd, rfl⟩ := List.mem_map.mp hf
      rw [List.reverse_concat, List.find?_cons]
      rcases mem_insertEntry (nodup_ofList bound) hd with rfl | ⟨hd, hother⟩
      · simp [sameName]
      · have hne : sameName e.1 d.name = false := by
          simpa [sameName] using fun heq => hother heq.symm
        simpa [hne] using ih (d.name, d.score) (List.mem_map.mpr ⟨d, hd, rfl⟩)

end Bindings

/-! ## What a table with an index holds -/

namespace IndexedBindings

/-- What a table answers after the given names and scores were bound, one after the other. -/
structure Records (t : IndexedBindings) (bound : List (String × Float)) : Prop where
  /-- A name has the score that it was bound to last, under any spelling. -/
  get?_eq : ∀ n, t.get? n = .ok (lastScore? bound n)
  contains_iff : ∀ n, t.contains n = true ↔ ∃ e ∈ bound, normalize e.1 = normalize n
  /-- Binding a name tells the score that looking it up finds just before. -/
  insert_eq : ∀ n x, ∃ previous t', t.get? n = .ok previous ∧ t.insert n x = .ok (previous, t')
  /-- Names stand in the order in which they were bound first. -/
  keys_eq : t.entries.map Binding.key = (bound.map (normalize ·.1)).eraseDups
  /-- Names are spelled as they were bound last. -/
  spelled : ∀ e ∈ t.toList, bound.reverse.find? (sameName ·.1 e.1) = some e
  size_eq : t.size = (bound.map (normalize ·.1)).toFinset.card

variable {t : IndexedBindings} {bound : List (String × Float)}

/-- A table stands for the bindings made from some names and scores only if it records them. -/
lemma StandsFor.records (h : t.StandsFor (Bindings.ofList bound)) : t.Records bound := by
  have hkeys : t.entries.map Binding.key = (bound.map (normalize ·.1)).eraseDups := by
    rw [h.entries_eq, Bindings.keys_ofList]
  have htoList : t.toList = (Bindings.ofList bound).toList := by
    rw [toList, h.entries_eq, Bindings.toList]
  refine ⟨fun n => ?_, fun n => ?_, fun n x => ?_, hkeys, ?_, ?_⟩
  · rw [h.get?_eq, Bindings.get?_ofList]
  · rw [h.contains_iff, hkeys, List.mem_eraseDups, List.mem_map]
  · obtain ⟨t', hinsert, _⟩ := h.insert n x
    exact ⟨_, t', by rw [h.get?_eq, Bindings.insert_fst], hinsert⟩
  · rw [htoList]
    exact Bindings.spelled_ofList bound
  · have hsame : (bound.map (normalize ·.1)).toFinset = (t.entries.map Binding.key).toFinset := by
      ext key
      rw [List.mem_toFinset, List.mem_toFinset, hkeys, List.mem_eraseDups]
    rw [hsame, List.toFinset_card_of_nodup h.nodup, List.length_map, size]

/-- **What a table holds after several calls.**  However names were bound, no place that the index
names is without an entry, the index is in step with the entries, and these are the entries of the
table without an index.  What the table answers is what the names and scores that were bound say:
each name has its last score and its last spelling and stands in its first place. -/
theorem replay_records (calls : List BindingsCall) :
    ∃ t, replay calls = .ok t ∧ t.StandsFor (Bindings.replay calls) ∧
      t.Records (inserted calls) := by
  obtain ⟨t, hreplay, h⟩ := standsFor_replay calls
  refine ⟨t, hreplay, h, StandsFor.records ?_⟩
  rwa [← Bindings.replay_eq]

end IndexedBindings

end Markbook
