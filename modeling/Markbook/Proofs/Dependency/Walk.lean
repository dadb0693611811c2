import Mathlib.Data.List.Nodup
import Mathlib.Data.List.Perm.Subperm
import Markbook.Dependency.Plan
import Markbook.Proofs.Dependency.Reachable

/-!
# Walking the graph

A walk enters an item, walks to everything the item reads, and leaves it.  The items that were
entered and not left form the way from the wanted item at which the walk started; each of them
depends on the one below it on the way.

Sources on a cycle outside the wanted items may be met while they are still on the way, so it is not
true of every item that all its sources have been left before it.  It is true of wanted items: a
source that is still on the way would put the item on a cycle, and wanted items on a cycle are never
entered.

* `ReadsAround` — reading directly or through items off a given list.
* `Walked` — the invariant of a walk, given the items on the way.
* `walks_walk` — a walk keeps the invariant and gets to its item.
-/

namespace Markbook

namespace DependencyGraph

variable {g : DependencyGraph} {wanted circular : List String}

/-- The item `reader` reads the item `source`, directly or through items that are not to be
passed. -/
inductive ReadsAround (g : DependencyGraph) (barred : List String) : String → String → Prop
  | direct {reader source} : g.Reads reader source → ReadsAround g barred reader source
  | through {reader next source} : g.Reads reader next → next ∉ barred →
      ReadsAround g barred next source → ReadsAround g barred reader source

lemma Depends.mem_readers {reader source : String} (h : g.Depends reader source) :
    reader ∈ g.readings.map (·.reader) := by
  obtain ⟨next, hread, _⟩ := Relation.TransGen.head'_iff.mp h
  exact List.mem_map.mpr ⟨⟨reader, next⟩, hread, rfl⟩

/-! ## The invariant -/

/-- How far a walk has come when it is on its way through the items of `way`. -/
structure Walked (g : DependencyGraph) (wanted circular way : List String) (w : Walk) : Prop where
  passable : ∀ x ∈ w.seen, x ∉ circular
  entered : ∀ x ∈ way, x ∈ w.seen
  sources_seen : ∀ x ∈ w.seen, x ∉ way → ∀ y, g.Reads x y → y ∉ circular → y ∈ w.seen
  mem_order : ∀ x, x ∈ w.order ↔ x ∈ w.seen ∧ x ∉ way ∧ x ∈ wanted
  nodup : w.order.Nodup
  ordered : ∀ x ∈ w.order, ∀ y ∈ wanted, y ∉ circular → g.ReadsAround circular x y →
    [y, x].Sublist w.order

lemma walked_start : Walked g wanted circular [] ⟨[], []⟩ where
  passable := by simp
  entered := by simp
  sources_seen := by simp
  mem_order := by simp
  nodup := List.nodup_nil
  ordered := by simp

/-- Entering an item puts it on the way. -/
lemma Walked.enter {way : List String} {w : Walk} {item : String}
    (h : Walked g wanted circular way w) (hitem : item ∉ circular) (hnew : item ∉ w.seen) :
    Walked g wanted circular (item :: way) { w with seen := item :: w.seen } where
  passable x hx := by
    rcases List.mem_cons.mp hx with rfl | hx
    · exact hitem
    · exact h.passable x hx
  entered x hx := by
    rcases List.mem_cons.mp hx with rfl | hx
    · exact List.mem_cons_self
    · exact List.mem_cons_of_mem _ (h.entered x hx)
  sources_seen x hx hway y hread hy := by
    rcases List.mem_cons.mp hx with rfl | hx
    · exact absurd List.mem_cons_self hway
    · have hway' : x ∉ way := fun hmem => hway (List.mem_cons_of_mem _ hmem)
      exact List.mem_cons_of_mem _ (h.sources_seen x hx hway' y hread hy)
  mem_order x := by
    rw [h.mem_order]
    simp only [List.mem_cons, not_or]
    constructor
    · rintro ⟨hseen, hway, hwanted⟩
      exact ⟨Or.inr hseen, ⟨fun heq => hnew (heq ▸ hseen), hway⟩, hwanted⟩
    · rintro ⟨hseen, ⟨hne, hway⟩, hwanted⟩
      exact ⟨hseen.resolve_left hne, hway, hwanted⟩
  nodup := h.nodup
  ordered := h.ordered

/-- **Everything an item reads is left before the item itself**, if the item does not depend on
itself: whatever is still on the way depends on the item. -/
lemma Walked.left_of_readsAround {way : List String} {w : Walk} {item x y : String}
    (h : Walked g wanted circular (item :: way) w) (hself : ¬ g.Depends item item)
    (hway : ∀ z ∈ way, g.Depends z item)
    (hsources : ∀ z, g.Reads item z → z ∉ circular → z ∈ w.seen)
    (hreads : g.ReadsAround circular x y) (hy : y ∉ circular)
    (hx : x = item ∨ g.Depends item x ∧ x ∈ w.seen) : y ∈ w.seen ∧ y ∉ item :: way := by
  -- an item on which `item` depends is not on the way
  have hoff : ∀ z, g.Depends item z → z ∉ item :: way := by
    intro z hz hmem
    rcases List.mem_cons.mp hmem with rfl | hmem
    · exact hself hz
    · exact hself (hz.trans (hway z hmem))
  have hseen : ∀ x z, (x = item ∨ g.Depends item x ∧ x ∈ w.seen) → g.Reads x z → z ∉ circular →
      g.Depends item z ∧ z ∈ w.seen := by
    rintro x z (rfl | ⟨hdep, hx⟩) hread hz
    · exact ⟨.single hread, hsources z hread hz⟩
    · exact ⟨hdep.tail hread, h.sources_seen x hx (hoff x hdep) z hread hz⟩
  induction hreads with
  | direct hread =>
      obtain ⟨hdep, hmem⟩ := hseen _ _ hx hread hy
      exact ⟨hmem, hoff _ hdep⟩
  | through hread hnext _ ih => exact ih hy (Or.inr (hseen _ _ hx hread hnext))

/-- Once an item has been left too, its sources have been met like those of all others off the
way. -/
lemma Walked.sources_seen_of_left {way : List String} {w : Walk} {item : String}
    (h : Walked g wanted circular (item :: way) w)
    (hsources : ∀ z, g.Reads item z → z ∉ circular → z ∈ w.seen) :
    ∀ x ∈ w.seen, x ∉ way → ∀ y, g.Reads x y → y ∉ circular → y ∈ w.seen := by
  intro x hx hway y hread hy
  by_cases hxi : x = item
  · subst hxi
    exact hsources y hread hy
  · exact h.sources_seen x hx (by simp [hxi, hway]) y hread hy

/-- Leaving an item that is not wanted. -/
lemma Walked.leave {way : List String} {w : Walk} {item : String}
    (h : Walked g wanted circular (item :: way) w) (hitem : item ∉ wanted)
    (hsources : ∀ z, g.Reads item z → z ∉ circular → z ∈ w.seen) :
    Walked g wanted circular way w where
  passable := h.passable
  entered x hx := h.entered x (List.mem_cons_of_mem _ hx)
  sources_seen := h.sources_seen_of_left hsources
  mem_order x := by
    rw [h.mem_order]
    simp only [List.mem_cons, not_or]
    constructor
    · rintro ⟨hseen, ⟨_, hway⟩, hwanted⟩
      exact ⟨hseen, hway, hwanted⟩
    · rintro ⟨hseen, hway, hwanted⟩
      exact ⟨hseen, ⟨fun heq => hitem (heq ▸ hwanted), hway⟩, hwanted⟩
  nodup := h.nodup
  ordered := h.ordered

/-- Leaving an item that is wanted puts it into the order. -/
lemma Walked.leave_wanted {way : List String} {w : Walk} {item : String}
    (h : Walked g wanted circular (item :: way) w) (hitem : item ∈ wanted) (hnew : item ∉ way)
    (hself : ¬ g.Depends item item) (hway : ∀ z ∈ way, g.Depends z item)
    (hsources : ∀ z, g.Reads item z → z ∉ circular → z ∈ w.seen) :
    Walked g wanted circular way { w with order := w.order ++ [item] } where
  passable := h.passable
  entered x hx := h.entered x (List.mem_cons_of_mem _ hx)
  sources_seen := h.sources_seen_of_left hsources
  mem_order x := by
    have hseen := h.entered item List.mem_cons_self
    simp only [List.mem_append, h.mem_order, List.mem_cons, List.not_mem_nil, or_false, not_or]
    constructor
    · rintro (⟨hx, ⟨_, hwayx⟩, hwanted⟩ | rfl)
      · exact ⟨hx, hwayx, hwanted⟩
      · exact ⟨hseen, hnew, hitem⟩
    · rintro ⟨hx, hwayx, hwanted⟩
      by_cases hxi : x = item
      · exact Or.inr hxi
      · exact Or.inl ⟨hx, ⟨hxi, hwayx⟩, hwanted⟩
  nodup := by
    refine List.nodup_append.mpr ⟨h.nodup, List.nodup_singleton _, ?_⟩
    intro x hx y hy heq
    rw [List.mem_singleton.mp hy] at heq
    subst heq
    exact ((h.mem_order x).mp hx).2.1 List.mem_cons_self
  ordered x hx y hy hcirc hreads := by
    rcases List.mem_append.mp hx with hx | hx
    · exact (h.ordered x hx y hy hcirc hreads).trans (List.sublist_append_left _ _)
    · rw [List.mem_singleton.mp hx] at hreads ⊢
      obtain ⟨hseen, hleft⟩ :=
        h.left_of_readsAround hself hway hsources hreads hcirc (Or.inl rfl)
      have hmem : y ∈ w.order := (h.mem_order y).mpr ⟨hseen, hleft, hy⟩
      exact (List.singleton_sublist.mpr hmem).append (List.Sublist.refl [item])

/-! ## The walk -/

/-- What a walk to an item does on the way through `way`: it keeps the invariant, forgets nothing
and gets to the item, unless the item is on a cycle. -/
def Walks (g : DependencyGraph) (wanted circular way : List String) (w w' : Walk)
    (items : List String) : Prop :=
  Walked g wanted circular way w' ∧ w.seen ⊆ w'.seen ∧
    ∀ x ∈ items, x ∉ circular → x ∈ w'.seen

lemma walks_foldl {way : List String} {step : Walk → String → Walk} : ∀ (items : List String)
    (w : Walk), (∀ x ∈ items, ∀ w, Walked g wanted circular way w →
      Walks g wanted circular way w (step w x) [x]) →
    Walked g wanted circular way w → Walks g wanted circular way w (items.foldl step w) items
  | [], w, _, h => ⟨h, List.Subset.refl _, by simp⟩
  | item :: rest, w, hstep, h => by
      obtain ⟨hfirst, hsub, hseen⟩ := hstep item List.mem_cons_self w h
      obtain ⟨hlast, hsub', hseen'⟩ := walks_foldl rest (step w item)
        (fun x hx => hstep x (List.mem_cons_of_mem _ hx)) hfirst
      refine ⟨hlast, List.Subset.trans hsub hsub', fun x hx hcirc => ?_⟩
      rcases List.mem_cons.mp hx with rfl | hx
      · exact hsub' (hseen x List.mem_cons_self hcirc)
      · exact hseen' x hx hcirc

/-- **A walk keeps the invariant.**  The induction is on the bound; as all items on the way are
different and have readings, it is not used up while there is a way to go. -/
theorem walks_walk (hcircular : ∀ x ∈ wanted, x ∉ circular → ¬ g.Depends x x) :
    ∀ (fuel : Nat) (way : List String) (w : Walk) (item : String),
      Walked g wanted circular way w → way.Nodup → (∀ x ∈ way, g.Depends x item) →
      way.length + fuel = g.readings.length + 1 →
      Walks g wanted circular way w (g.walk wanted circular fuel w item) [item]
  | 0, way, w, item, h, hnodup, hway, hfuel => by
      have hsub : way ⊆ g.readings.map (·.reader) := fun x hx => Depends.mem_readers (hway x hx)
      have hle := (hnodup.subperm hsub).length_le
      rw [List.length_map] at hle
      omega
  | fuel + 1, way, w, item, h, hnodup, hway, hfuel => by
      rw [walk]
      split_ifs with hstop hwanted
      · refine ⟨h, List.Subset.refl _, fun x hx hcirc => ?_⟩
        rw [List.mem_singleton.mp hx] at hcirc ⊢
        simpa [hcirc] using hstop
      all_goals
        simp only [Bool.or_eq_true, List.contains_iff_mem, not_or] at hstop hwanted
        obtain ⟨hcirc, hnew⟩ := hstop
        have hnot : item ∉ way := fun hmem => hnew (h.entered item hmem)
        obtain ⟨hwalked, hsub, hseen⟩ := walks_foldl (g.sources item) _
          (fun y hy w' h' => walks_walk hcircular fuel (item :: way) w' y h'
            (List.nodup_cons.mpr ⟨hnot, hnodup⟩)
            (fun x hx => by
              have hread := mem_sources.mp hy
              rcases List.mem_cons.mp hx with rfl | hx
              · exact .single hread
              · exact (hway x hx).tail hread)
            (by simp only [List.length_cons]; omega))
          (h.enter hcirc hnew)
        have hsources : ∀ z, g.Reads item z → z ∉ circular →
            z ∈ ((g.sources item).foldl (g.walk wanted circular fuel)
              { w with seen := item :: w.seen }).seen :=
          fun z hz => hseen z (mem_sources.mpr hz)
        have hitem := hsub (List.mem_cons_self (a := item) (l := w.seen))
        have hold := fun x hx => hsub (List.mem_cons_of_mem item (a := x) hx)
      · exact ⟨hwalked.leave_wanted hwanted hnot (hcircular item hwanted hcirc) hway hsources,
          hold, by simpa using fun _ => hitem⟩
      · exact ⟨hwalked.leave hwanted hsources, hold, by simpa using fun _ => hitem⟩

end DependencyGraph

end Markbook
