import Mathlib.Data.String.Basic
import Markbook.Ordered

/-!
# Ordered lists depend on their members only

`orderedSet` inserts one element after the other, so on the face of it its result could depend on
the order of insertion.  It does not: under a strict total order the result is the one ordered list
with the given members.  This is what makes a plan of calculation, or the names a scanner tries,
a function of a *set*.

* `StrictTotal` — what an order has to satisfy.
* `mem_orderedSet`, `pairwise_orderedSet` — the members, and their order.
* `orderedSet_congr` — lists with the same members are put in the same order.
* `textBefore_strictTotal` — the order by code points is such an order.
-/

namespace Markbook

variable {α : Type} [DecidableEq α] {before : α → α → Bool}

/-- A strict total order given as a test. -/
structure StrictTotal (before : α → α → Bool) : Prop where
  irrefl : ∀ x, before x x = false
  trans : ∀ {x y z}, before x y = true → before y z = true → before x z = true
  total : ∀ {x y}, x ≠ y → before x y = false → before y x = true

omit [DecidableEq α] in
lemma StrictTotal.asymm (h : StrictTotal before) {x y : α}
    (hxy : before x y = true) : before y x = false := by
  rw [Bool.eq_false_iff]
  intro hyx
  have hself := h.trans hxy hyx
  rw [h.irrefl] at hself
  cases hself

/-! ## Members -/

lemma mem_insertOrdered {x y : α} : ∀ xs : List α,
    y ∈ insertOrdered before x xs ↔ y = x ∨ y ∈ xs
  | [] => by simp [insertOrdered]
  | z :: rest => by
      rw [insertOrdered]
      split_ifs with hxz hbefore
      · subst hxz; simp
      · simp
      · simp only [List.mem_cons, mem_insertOrdered rest]
        tauto

/-- Ordering a list loses nothing and adds nothing. -/
@[simp] lemma mem_orderedSet {x : α} {xs : List α} : x ∈ orderedSet before xs ↔ x ∈ xs := by
  induction xs with
  | nil => simp [orderedSet]
  | cons y rest ih =>
      simp only [orderedSet, List.foldr_cons] at ih ⊢
      rw [mem_insertOrdered _, ih, List.mem_cons]

lemma length_insertOrdered_le {x : α} : ∀ xs : List α,
    (insertOrdered before x xs).length ≤ xs.length + 1
  | [] => by simp [insertOrdered]
  | y :: rest => by
      rw [insertOrdered]
      split_ifs
      · simp
      · simp
      · simpa using length_insertOrdered_le rest

lemma length_orderedSet_le (xs : List α) : (orderedSet before xs).length ≤ xs.length := by
  induction xs with
  | nil => simp [orderedSet]
  | cons y rest ih =>
      simp only [orderedSet, List.foldr_cons, List.length_cons] at ih ⊢
      exact le_trans (length_insertOrdered_le _) (by omega)

/-! ## Order -/

lemma pairwise_insertOrdered (h : StrictTotal before) {x : α} : ∀ {xs : List α},
    xs.Pairwise (before · ·) → (insertOrdered before x xs).Pairwise (before · ·)
  | [], _ => by simp [insertOrdered]
  | y :: rest, hxs => by
      obtain ⟨hy, hrest⟩ := List.pairwise_cons.mp hxs
      rw [insertOrdered]
      split_ifs with hxy hbefore
      · exact hxs
      · refine List.pairwise_cons.mpr ⟨fun z hz => ?_, hxs⟩
        rcases List.mem_cons.mp hz with rfl | hz
        · exact hbefore
        · exact h.trans hbefore (hy z hz)
      · refine List.pairwise_cons.mpr ⟨fun z hz => ?_, pairwise_insertOrdered h hrest⟩
        rcases (mem_insertOrdered _).mp hz with rfl | hz
        · exact h.total hxy (by simpa using hbefore)
        · exact hy z hz

lemma pairwise_orderedSet (h : StrictTotal before) (xs : List α) :
    (orderedSet before xs).Pairwise (before · ·) := by
  induction xs with
  | nil => simp [orderedSet]
  | cons y rest ih => exact pairwise_insertOrdered h ih

omit [DecidableEq α] in
lemma StrictTotal.nodup (h : StrictTotal before) {xs : List α} (hxs : xs.Pairwise (before · ·)) :
    xs.Nodup := by
  refine hxs.imp fun {x y} hxy heq => ?_
  subst heq
  rw [h.irrefl] at hxy
  exact Bool.noConfusion hxy

omit [DecidableEq α] in
/-- There is only one ordered list with given members. -/
lemma StrictTotal.eq_of_mem_iff (h : StrictTotal before) {xs ys : List α}
    (hxs : xs.Pairwise (before · ·)) (hys : ys.Pairwise (before · ·))
    (hmem : ∀ x, x ∈ xs ↔ x ∈ ys) : xs = ys := by
  have hperm : xs.Perm ys := (List.perm_ext_iff_of_nodup (h.nodup hxs) (h.nodup hys)).mpr hmem
  refine hperm.eq_of_pairwise (fun x y _ _ hxy hyx => ?_) hxs hys
  rw [h.asymm hxy] at hyx
  cases hyx

/-- **The order of insertion does not matter.**  Both lists are ordered and have the same members,
and there is only one such list. -/
theorem orderedSet_congr (h : StrictTotal before) {xs ys : List α} (hmem : ∀ x, x ∈ xs ↔ x ∈ ys) :
    orderedSet before xs = orderedSet before ys :=
  h.eq_of_mem_iff (pairwise_orderedSet h xs) (pairwise_orderedSet h ys)
    fun x => by rw [mem_orderedSet, mem_orderedSet, hmem]

/-- Whether elements are left out before or after ordering makes no difference. -/
lemma filter_orderedSet (h : StrictTotal before) (keep : α → Bool) (xs : List α) :
    (orderedSet before xs).filter keep = orderedSet before (xs.filter keep) :=
  h.eq_of_mem_iff ((pairwise_orderedSet h xs).filter keep) (pairwise_orderedSet h _)
    fun x => by simp only [List.mem_filter, mem_orderedSet]

/-! ## The orders in use -/

theorem textBefore_strictTotal : StrictTotal textBefore where
  irrefl x := by simp [textBefore]
  trans := textBefore_trans
  total hne hxy := textBefore_of_ne hne (by simp [hxy])

end Markbook
