import Mathlib.Logic.Relation
import Markbook.Dependency.Graph
import Markbook.Proofs.Ordered

/-!
# What an item depends on

`DependencyGraph.reachable` collects item after item under a bound on the number of steps.  The
bound never cuts a search short: a step either drops an item from the list still to follow, or
follows an item for the first time and so uses up its readings for good.

* `DependencyGraph.Reads` through the operations that build a graph.
* `mem_reachable` — the search finds exactly what an item depends on.
* `isCircular_iff` — an item is circular exactly when it depends on itself.
* `Depends` is decidable, by running the search.
-/

namespace Markbook

namespace DependencyGraph

variable {g : DependencyGraph}

/-! ## Readings -/

@[simp] lemma not_reads_empty (reader source : String) : ¬ empty.Reads reader source := by
  simp [Reads, empty]

@[simp] lemma reads_add {source reader x y : String} :
    (g.add source reader).Reads x y ↔
      (x = normalize reader ∧ y = normalize source) ∨ g.Reads x y := by
  simp [Reads, add]

@[simp] lemma mem_sources {reader source : String} :
    source ∈ g.sources reader ↔ g.Reads reader source := by
  simp only [sources, mem_orderedSet, List.mem_map, List.mem_filter, beq_iff_eq, Reads]
  constructor
  · rintro ⟨r, ⟨hr, rfl⟩, rfl⟩
    exact hr
  · intro h
    exact ⟨⟨reader, source⟩, ⟨h, rfl⟩, rfl⟩

lemma sources_congr {g' : DependencyGraph} (h : ∀ x y, g.Reads x y ↔ g'.Reads x y)
    (reader : String) : g.sources reader = g'.sources reader := by
  refine orderedSet_congr textBefore_strictTotal fun source => ?_
  have hmem := h reader source
  rw [← mem_sources, ← mem_sources] at hmem
  simpa only [sources, mem_orderedSet] using hmem

lemma length_sources_le (reader : String) :
    (g.sources reader).length ≤ (g.readings.filter (·.reader == reader)).length := by
  rw [← List.length_map (f := Reading.source)]
  exact length_orderedSet_le _

/-! ## The search -/

/-- The readings of items that are not collected yet. -/
def unfollowed (g : DependencyGraph) (seen : List String) : List Reading :=
  g.readings.filter fun r => !seen.contains r.reader

/-- Following an item uses up its readings. -/
lemma length_unfollowed_cons {seen : List String} {item : String} (h : item ∉ seen) :
    (g.sources item).length + (g.unfollowed (item :: seen)).length ≤
      (g.unfollowed seen).length := by
  have hsplit : ∀ rs : List Reading,
      (rs.filter (·.reader == item)).length
        + (rs.filter fun r => !(item :: seen).contains r.reader).length
          = (rs.filter fun r => !seen.contains r.reader).length := by
    intro rs
    induction rs with
    | nil => rfl
    | cons r rest ih =>
        simp only [List.contains_cons, Bool.not_or] at ih ⊢
        by_cases hitem : r.reader = item
        · simp only [hitem, List.filter_cons, beq_self_eq_true, List.contains_eq_mem, h] at ih ⊢
          simp
          omega
        · by_cases hseen : r.reader ∈ seen <;> simp [hitem, hseen] at ih ⊢ <;> omega
  have hle := length_sources_le (g := g) item
  have heq := hsplit g.readings
  simp only [unfollowed]
  omega

/-- **The search finds everything.**  With enough steps for what is left to follow, whatever is read
by a collected item is collected too. -/
lemma collect_closed : ∀ (fuel : Nat) (seen todo : List String),
    todo.length + (g.unfollowed seen).length ≤ fuel →
    (∀ x ∈ seen, ∀ y, g.Reads x y → y ∈ seen ∨ y ∈ todo) →
    (∀ x, x ∈ seen ∨ x ∈ todo → x ∈ g.collect fuel seen todo) ∧
      ∀ x ∈ g.collect fuel seen todo, ∀ y, g.Reads x y → y ∈ g.collect fuel seen todo
  | 0, seen, todo, hfuel, hclosed => by
      have htodo : todo = [] := List.length_eq_zero_iff.mp (by omega)
      subst htodo
      simp only [collect]
      exact ⟨fun x hx => by simpa using hx, fun x hx y hy => by simpa using hclosed x hx y hy⟩
  | fuel + 1, seen, [], _, hclosed => by
      simp only [collect]
      exact ⟨fun x hx => by simpa using hx, fun x hx y hy => by simpa using hclosed x hx y hy⟩
  | fuel + 1, seen, item :: todo, hfuel, hclosed => by
      rw [collect]
      simp only [List.length_cons] at hfuel
      split_ifs with hseen
      · have hmem : item ∈ seen := by simpa using hseen
        obtain ⟨hall, hnext⟩ := collect_closed fuel seen todo (by omega) (by
          intro x hx y hy
          rcases hclosed x hx y hy with h | h
          · exact Or.inl h
          · rcases List.mem_cons.mp h with rfl | h
            · exact Or.inl hmem
            · exact Or.inr h)
        refine ⟨fun x hx => hall x ?_, hnext⟩
        rcases hx with h | h
        · exact Or.inl h
        · rcases List.mem_cons.mp h with rfl | h
          · exact Or.inl hmem
          · exact Or.inr h
      · have hmem : item ∉ seen := by simpa using hseen
        have hused := length_unfollowed_cons (g := g) hmem
        obtain ⟨hall, hnext⟩ := collect_closed fuel (item :: seen) (g.sources item ++ todo)
          (by rw [List.length_append]; omega) (by
            intro x hx y hy
            rcases List.mem_cons.mp hx with rfl | hx
            · exact Or.inr (List.mem_append_left _ (mem_sources.mpr hy))
            · rcases hclosed x hx y hy with h | h
              · exact Or.inl (List.mem_cons_of_mem _ h)
              · rcases List.mem_cons.mp h with rfl | h
                · exact Or.inl List.mem_cons_self
                · exact Or.inr (List.mem_append_right _ h))
        refine ⟨fun x hx => hall x ?_, hnext⟩
        rcases hx with h | h
        · exact Or.inl (List.mem_cons_of_mem _ h)
        · rcases List.mem_cons.mp h with rfl | h
          · exact Or.inl List.mem_cons_self
          · exact Or.inr (List.mem_append_right _ h)

/-- The search finds nothing but what the item depends on. -/
lemma depends_of_mem_collect {reader : String} : ∀ (fuel : Nat) (seen todo : List String),
    (∀ x, x ∈ seen ∨ x ∈ todo → g.Depends reader x) →
    ∀ x ∈ g.collect fuel seen todo, g.Depends reader x
  | 0, seen, todo, h, x, hx => h x (Or.inl hx)
  | fuel + 1, seen, [], h, x, hx => h x (Or.inl hx)
  | fuel + 1, seen, item :: todo, h, x, hx => by
      rw [collect] at hx
      have hitem := h item (Or.inr List.mem_cons_self)
      split_ifs at hx
      · refine depends_of_mem_collect fuel seen todo (fun y hy => h y ?_) x hx
        exact hy.imp id (List.mem_cons_of_mem _)
      · refine depends_of_mem_collect fuel (item :: seen) (g.sources item ++ todo) ?_ x hx
        intro y hy
        rcases hy with hy | hy
        · rcases List.mem_cons.mp hy with rfl | hy
          · exact hitem
          · exact h y (Or.inl hy)
        · rcases List.mem_append.mp hy with hy | hy
          · exact hitem.tail (mem_sources.mp hy)
          · exact h y (Or.inr (List.mem_cons_of_mem _ hy))

/-- **The search is exact.** -/
theorem mem_reachable {reader x : String} : x ∈ g.reachable reader ↔ g.Depends reader x := by
  have hlength : (g.sources reader).length ≤ g.readings.length :=
    le_trans (length_sources_le reader) (List.length_filter_le _ _)
  have hunfollowed : (g.unfollowed []).length ≤ g.readings.length := List.length_filter_le _ _
  obtain ⟨hall, hnext⟩ := collect_closed (g := g) (2 * g.readings.length + 1) []
    (g.sources reader) (by omega) (by simp)
  constructor
  · refine depends_of_mem_collect _ _ _ (fun y hy => ?_) x
    exact .single (mem_sources.mp (by simpa using hy))
  · intro h
    induction h with
    | single hread => exact hall _ (Or.inr (mem_sources.mpr hread))
    | tail _ hread ih => exact hnext _ ih _ hread

instance : Decidable (g.Depends reader x) :=
  decidable_of_iff _ mem_reachable

/-- An item is circular exactly when it depends on itself. -/
theorem isCircular_iff {item : String} :
    g.isCircular item = true ↔ g.Depends (normalize item) (normalize item) := by
  rw [isCircular, List.contains_iff_mem, mem_reachable]

end DependencyGraph

end Markbook
