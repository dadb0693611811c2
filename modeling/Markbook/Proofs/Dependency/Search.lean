import Markbook.Dependency.Search
import Markbook.Proofs.Dependency.Plan

/-!
# Cycles are found exactly

An item is circular exactly if the readings lead from it back to itself, and whoever looks for the
way back may go through the sources of an item in any order.

The search shares what it has entered between all branches, and an item counts as entered long
before everything behind it has been looked at.  So it is not true at every moment that the sources
of an entered item have been entered too.  It is true of the items that a branch enters itself, once
the branch is finished: `search_closed`.  For the whole search these are all items, and then
nothing that the start depends on has been missed.

* `search_closed` — what is entered if the target is not met.
* `exists_depends_of_search` — the target is met only where there is a way to it.
* `comesBack_iff` — the search for a way back, in any order.
* `isCircular_exact` — **the cycles are those of the readings**.
-/

namespace Markbook

namespace DependencyGraph

variable {g : DependencyGraph} {next : String → List String} {target : String}

/-! ## The search -/

/-- The more has been entered, the fewer readings are left to follow. -/
lemma length_unfollowed_le {seen seen' : List String} (h : seen ⊆ seen') :
    (g.unfollowed seen').length ≤ (g.unfollowed seen).length := by
  refine (List.monotone_filter_right g.readings fun r hr => ?_).length_le
  simp only [Bool.not_eq_true', List.contains_eq_mem, decide_eq_false_iff_not] at hr ⊢
  exact fun hmem => hr (h hmem)

/-- **What a finished branch has entered.**  If the target is not met, everything to look at has
been entered, and so have the sources of all items that were entered on the way, and none of it is
the target.  Nothing is said of the items in `seen`: some of them may be on the way still. -/
theorem search_closed (hnext : ∀ x, (next x).Perm (g.sources x)) :
    ∀ (fuel : Nat) (seen todo entered : List String),
      todo.length + (g.unfollowed seen).length ≤ fuel →
      search next target fuel seen todo = some entered →
      seen ⊆ entered ∧ (∀ x ∈ todo, x ≠ target ∧ x ∈ entered) ∧
        ∀ x ∈ entered, x ∉ seen → ∀ y, g.Reads x y → y ≠ target ∧ y ∈ entered
  | 0, seen, todo, entered, hfuel, h => by
      have htodo : todo = [] := List.length_eq_zero_iff.mp (by omega)
      subst htodo
      obtain rfl := Option.some.inj h
      exact ⟨List.Subset.refl _, by simp, fun x hx hnew => absurd hx hnew⟩
  | fuel + 1, seen, [], entered, _, h => by
      obtain rfl := Option.some.inj h
      exact ⟨List.Subset.refl _, by simp, fun x hx hnew => absurd hx hnew⟩
  | fuel + 1, seen, item :: todo, entered, hfuel, h => by
      rw [List.length_cons] at hfuel
      rw [search] at h
      split_ifs at h with htarget hseen
      · have hmem : item ∈ seen := by simpa using hseen
        obtain ⟨hsub, htodo, hclosed⟩ :=
          search_closed hnext fuel seen todo entered (by omega) h
        exact ⟨hsub, List.forall_mem_cons.mpr ⟨⟨htarget, hsub hmem⟩, htodo⟩, hclosed⟩
      · have hnew : item ∉ seen := by simpa using hseen
        obtain ⟨behind, hbehind, hrest⟩ := Option.bind_eq_some_iff.mp h
        have hused := length_unfollowed_cons (g := g) hnew
        have hlength := (hnext item).length_eq
        obtain ⟨hsub, hsources, hclosed⟩ := search_closed hnext fuel (item :: seen) (next item)
          behind (by omega) hbehind
        have hless := length_unfollowed_le (g := g) (List.subset_of_cons_subset hsub)
        obtain ⟨hsub', htodo, hclosed'⟩ := search_closed hnext fuel behind todo entered
          (by omega) hrest
        refine ⟨List.Subset.trans (List.subset_of_cons_subset hsub) hsub',
          List.forall_mem_cons.mpr ⟨⟨htarget, hsub' (hsub List.mem_cons_self)⟩, htodo⟩, ?_⟩
        -- an item entered on the way is `item` itself, or was entered behind it, or later
        intro x hx hxseen y hread
        by_cases hxbehind : x ∈ behind
        · have hy : y ≠ target ∧ y ∈ behind := by
            by_cases hxi : x = item
            · subst hxi
              exact hsources y ((hnext x).mem_iff.mpr (mem_sources.mpr hread))
            · exact hclosed x hxbehind (List.mem_cons.not.mpr (not_or.mpr ⟨hxi, hxseen⟩)) y hread
          exact ⟨hy.1, hsub' hy.2⟩
        · exact hclosed' x hx hxbehind y hread

/-- The target is met only where there is a way to it. -/
lemma exists_depends_of_search (hnext : ∀ x, (next x).Perm (g.sources x)) :
    ∀ (fuel : Nat) (seen todo : List String), search next target fuel seen todo = none →
      ∃ x ∈ todo, x = target ∨ g.Depends x target
  | fuel + 1, seen, item :: todo, h => by
      rw [search] at h
      split_ifs at h with htarget hseen
      · exact ⟨item, List.mem_cons_self, Or.inl htarget⟩
      · obtain ⟨x, hx, hway⟩ := exists_depends_of_search hnext fuel seen todo h
        exact ⟨x, List.mem_cons_of_mem item hx, hway⟩
      · cases hbehind : search next target fuel (item :: seen) (next item) with
        | none =>
            obtain ⟨x, hx, hway⟩ := exists_depends_of_search hnext fuel _ _ hbehind
            have hread : g.Reads item x := mem_sources.mp ((hnext item).mem_iff.mp hx)
            refine ⟨item, List.mem_cons_self, Or.inr ?_⟩
            rcases hway with rfl | hway
            · exact .single hread
            · exact .head hread hway
        | some behind =>
            rw [hbehind] at h
            obtain ⟨x, hx, hway⟩ := exists_depends_of_search hnext fuel behind todo h
            exact ⟨x, List.mem_cons_of_mem item hx, hway⟩

/-- **The search for a way back is exact**, in whatever order it goes through the sources. -/
theorem comesBack_iff (hnext : ∀ x, (next x).Perm (g.sources x)) {item : String} :
    g.comesBack next item = true ↔ g.Depends (normalize item) (normalize item) := by
  have hmem : ∀ {x y}, y ∈ next x ↔ g.Reads x y := fun {x y} =>
    (hnext x).mem_iff.trans mem_sources
  rw [comesBack, Option.isNone_iff_eq_none]
  constructor
  · intro h
    obtain ⟨x, hx, hway⟩ := exists_depends_of_search hnext _ _ _ h
    rcases hway with rfl | hway
    · exact .single (hmem.mp hx)
    · exact .head (hmem.mp hx) hway
  · intro hdep
    cases hsearch : search next (normalize item) (2 * g.readings.length) []
        (next (normalize item)) with
    | none => rfl
    | some entered =>
        have hlength : (next (normalize item)).length ≤ g.readings.length := by
          rw [(hnext _).length_eq]
          exact le_trans (length_sources_le _) (List.length_filter_le _ _)
        have hunfollowed : (g.unfollowed []).length ≤ g.readings.length :=
          List.length_filter_le _ _
        obtain ⟨_, hsources, hclosed⟩ := search_closed hnext _ _ _ _ (by omega) hsearch
        -- nothing had been entered before, so all that the item depends on is entered
        have hall : ∀ x, g.Depends (normalize item) x → x ≠ normalize item ∧ x ∈ entered := by
          intro x hx
          induction hx with
          | single hread => exact hsources _ (hmem.mpr hread)
          | tail _ hread ih => exact hclosed _ ih.2 List.not_mem_nil _ hread
        exact absurd rfl (hall _ hdep).1

/-! ## The cycles of a graph -/

/-- **Cycles are found exactly.**  Whatever extensions made the graph, an item is circular if and
only if one or more of their readings lead from its plain name back to it.  The answer is the same
for all extensions with these readings, in whatever order and however often they come, and for every
order in which a search for the way back goes through the sources of the items. -/
theorem isCircular_exact (links : List Link) (item : String) :
    ((build links).isCircular item = true ↔
      Relation.TransGen (fun x y => ∃ link ∈ links, ⟨x, y⟩ ∈ link.readings)
        (normalize item) (normalize item)) ∧
    (∀ links', (∀ r, (∃ link ∈ links', r ∈ link.readings) ↔ ∃ link ∈ links, r ∈ link.readings) →
      (build links').isCircular item = (build links).isCircular item) ∧
    ∀ next, (∀ x, (next x).Perm ((build links).sources x)) →
      (build links).comesBack next item = (build links).isCircular item := by
  have hreads : ∀ links, (build links).Reads = fun x y => ∃ link ∈ links, ⟨x, y⟩ ∈ link.readings :=
    fun links => funext fun x => funext fun y => propext reads_build
  refine ⟨?_, fun links' h => ?_, fun next hnext => ?_⟩
  · rw [isCircular_iff, Depends, hreads]
  · rw [Bool.eq_iff_iff, isCircular_iff, isCircular_iff, Depends, Depends, hreads, hreads]
    simp only [h]
  · rw [Bool.eq_iff_iff, comesBack_iff hnext, isCircular_iff]

end DependencyGraph

end Markbook
