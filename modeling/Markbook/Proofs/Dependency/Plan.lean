import Markbook.Dependency.History
import Markbook.Proofs.Dependency.Walk
import Markbook.Proofs.Name

/-!
# Plans are correct

A plan for a list of items puts the items on a cycle aside and orders the others so that every item
comes after those it reads.  That holds for every graph and every list: items may be listed twice,
may be unknown to the graph, and may read each other through items that are not listed.

* `reads_build` — the readings of a graph are those of its extensions.
* `mem_plan_order`, `nodup_plan_order`, `sublist_plan_order` — what stands in the order, and where.
* `plan_induction` — induction from what is read to what reads it.
* `plan_congr` — a plan depends on the set of readings only.
* `plan_correct` — all of it at once.
-/

namespace Markbook

namespace DependencyGraph

variable {g : DependencyGraph}

/-! ## Building a graph -/

lemma reads_addFormula {reader x y : String} {f : Formula} :
    (g.addFormula reader f).Reads x y ↔
      (x = normalize reader ∧ ∃ name ∈ f.references, y = normalize name) ∨ g.Reads x y := by
  have hfold : ∀ (names : List String) (g : DependencyGraph),
      (names.foldl (fun g source => g.add source reader) g).Reads x y ↔
        (x = normalize reader ∧ ∃ name ∈ names, y = normalize name) ∨ g.Reads x y := by
    intro names
    induction names with
    | nil => simp
    | cons name rest ih =>
        intro g
        rw [List.foldl_cons, ih, reads_add]
        simp only [List.mem_cons, exists_eq_or_imp, and_or_left, or_assoc, or_left_comm]
  exact hfold f.references g

lemma reads_extend {link : Link} {x y : String} :
    (g.extend link).Reads x y ↔ ⟨x, y⟩ ∈ link.readings ∨ g.Reads x y := by
  cases link with
  | dependency source reader => simp [extend, Link.readings]
  | formula reader tree =>
      simp only [extend, reads_addFormula, Link.readings, List.mem_map, Reading.mk.injEq]
      constructor
      · rintro (⟨hx, name, hname, hy⟩ | h)
        · exact Or.inl ⟨name, hname, hx.symm, hy.symm⟩
        · exact Or.inr h
      · rintro (⟨name, hname, hx, hy⟩ | h)
        · exact Or.inl ⟨hx.symm, name, hname, hy.symm⟩
        · exact Or.inr h

/-- The readings of a graph are those of its extensions, in whatever order they came. -/
lemma reads_build {links : List Link} {x y : String} :
    (build links).Reads x y ↔ ∃ link ∈ links, ⟨x, y⟩ ∈ link.readings := by
  have hfold : ∀ (links : List Link) (g : DependencyGraph),
      (links.foldl extend g).Reads x y ↔
        (∃ link ∈ links, ⟨x, y⟩ ∈ link.readings) ∨ g.Reads x y := by
    intro links
    induction links with
    | nil => simp
    | cons link rest ih =>
        intro g
        rw [List.foldl_cons, ih, reads_extend]
        simp only [List.mem_cons, exists_eq_or_imp, or_assoc, or_left_comm]
  simpa [build] using hfold links empty

/-! ## The plan of a graph -/

variable {items : List String}

/-- The items put aside are those on a cycle, as often and in the order in which they are listed. -/
lemma plan_circular :
    (g.plan items).circular = (items.map normalize).filter fun x => g.Depends x x := by
  simp only [plan]
  refine List.filter_congr fun x hx => ?_
  obtain ⟨item, _, rfl⟩ := List.mem_map.mp hx
  rw [Bool.eq_iff_iff, isCircular_iff, normalize_normalize]
  simp

/-- The walk that makes a plan keeps its invariant and gets to every wanted item. -/
lemma walked_plan (g : DependencyGraph) (items : List String) :
    ∃ w : Walk, w.order = (g.plan items).order ∧
      Walks g (items.map normalize) (g.plan items).circular [] ⟨[], []⟩ w
        (items.map normalize) := by
  refine ⟨_, rfl, walks_foldl _ _ (fun x _ w h => ?_) walked_start⟩
  refine walks_walk (fun y hy hcirc hself => hcirc ?_) _ [] w x h List.nodup_nil (by simp) (by simp)
  rw [plan_circular]
  exact List.mem_filter.mpr ⟨hy, by simpa using hself⟩

/-- The order holds the wanted items that are on no cycle. -/
lemma mem_plan_order {x : String} :
    x ∈ (g.plan items).order ↔ x ∈ items.map normalize ∧ ¬ g.Depends x x := by
  obtain ⟨w, horder, hwalked, _, hseen⟩ := walked_plan g items
  rw [← horder, hwalked.mem_order]
  constructor
  · rintro ⟨hx, _, hwanted⟩
    refine ⟨hwanted, fun hself => hwalked.passable x hx ?_⟩
    rw [plan_circular]
    exact List.mem_filter.mpr ⟨hwanted, by simpa using hself⟩
  · rintro ⟨hwanted, hself⟩
    refine ⟨hseen x hwanted ?_, List.not_mem_nil, hwanted⟩
    rw [plan_circular]
    exact fun hmem => hself (by simpa using (List.mem_filter.mp hmem).2)

lemma nodup_plan_order : (g.plan items).order.Nodup := by
  obtain ⟨w, horder, hwalked, _⟩ := walked_plan g items
  exact horder ▸ hwalked.nodup

lemma sublist_plan_order {x y : String} (hx : x ∈ (g.plan items).order)
    (hy : y ∈ (g.plan items).order) (h : g.ReadsAround (g.plan items).circular x y) :
    [y, x].Sublist (g.plan items).order := by
  obtain ⟨w, horder, hwalked, _⟩ := walked_plan g items
  obtain ⟨hwanted, hself⟩ := mem_plan_order.mp hy
  rw [← horder] at hx ⊢
  refine hwalked.ordered x hx y hwanted (fun hmem => hself ?_) h
  rw [plan_circular] at hmem
  simpa using (List.mem_filter.mp hmem).2

/-- Of two different elements of a list without repetition only one stands before the other. -/
lemma not_sublist_swap {x y : String} : ∀ {l : List String}, l.Nodup → [x, y].Sublist l →
    ¬ [y, x].Sublist l
  | z :: rest, hnodup, hxy, hyx => by
      obtain ⟨hz, hnodup⟩ := List.nodup_cons.mp hnodup
      cases hxy with
      | cons _ hxy =>
          cases hyx with
          | cons _ hyx => exact not_sublist_swap hnodup hxy hyx
          | cons_cons _ hx => exact hz (hxy.subset (by simp))
      | cons_cons _ hy =>
          cases hyx with
          | cons _ hyx => exact hz (hyx.subset (by simp))
          | cons_cons _ _ => exact hz (hy.subset (by simp))

/-- **No item of the order reads one behind it.** -/
lemma pairwise_plan_order :
    (g.plan items).order.Pairwise fun x y => x ≠ y ∧ ¬ g.Reads x y := by
  rw [List.pairwise_iff_forall_sublist]
  intro x y h
  have hx : x ∈ (g.plan items).order := h.subset (by simp)
  have hy : y ∈ (g.plan items).order := h.subset (by simp)
  refine ⟨(List.pairwise_iff_forall_sublist.mp nodup_plan_order) h, fun hread => ?_⟩
  exact not_sublist_swap nodup_plan_order h (sublist_plan_order hx hy (.direct hread))

/-- **Induction along a plan.**  What holds of an item of the order if it holds of everything that
the item reads, and of all other items in any case, holds of every item.  The induction takes the
order from its start, where nothing read can stand behind. -/
theorem plan_induction {P : String → Prop}
    (h : ∀ x, (x ∈ (g.plan items).order → ∀ y, g.Reads x y → P y) → P x) (x : String) : P x := by
  have hlist : ∀ l : List String, l ⊆ (g.plan items).order →
      (l.Pairwise fun x y => ¬ g.Reads x y) → (∀ x ∉ l, P x) → ∀ x, P x := by
    intro l
    induction l with
    | nil => exact fun _ _ hother x => hother x List.not_mem_nil
    | cons a l ih =>
        intro hsub hlater hother
        obtain ⟨ha, hlater⟩ := List.pairwise_cons.mp hlater
        have hself : ¬ g.Reads a a := fun hread =>
          (mem_plan_order.mp (hsub List.mem_cons_self)).2 (.single hread)
        have hfirst : P a := by
          refine h a fun _ y hread => hother y fun hy => ?_
          rcases List.mem_cons.mp hy with rfl | hy
          · exact hself hread
          · exact ha y hy hread
        refine ih (fun y hy => hsub (List.mem_cons_of_mem a hy)) hlater fun y hy => ?_
        by_cases hya : y = a
        · exact hya ▸ hfirst
        · exact hother y (List.mem_cons.not.mpr (not_or.mpr ⟨hya, hy⟩))
  exact hlist _ (List.Subset.refl _) (pairwise_plan_order.imp And.right)
    (fun y hy => h y fun hmem => absurd hmem hy) x

/-! ## Only the set of readings matters -/

lemma walk_congr {g' : DependencyGraph} {wanted circular : List String}
    (h : ∀ x y, g.Reads x y ↔ g'.Reads x y) : ∀ (fuel : Nat) (w : Walk) (item : String),
    g.walk wanted circular fuel w item = g'.walk wanted circular fuel w item
  | 0, _, _ => rfl
  | fuel + 1, w, item => by
      have hstep : g.walk wanted circular fuel = g'.walk wanted circular fuel :=
        funext fun w => funext fun item => walk_congr h fuel w item
      rw [walk, walk, sources_congr h, hstep]

lemma nodup_build (links : List Link) : (build links).readings.Nodup := by
  have hadd : ∀ (g : DependencyGraph) (source reader : String),
      g.readings.Nodup → (g.add source reader).readings.Nodup :=
    fun g _ _ h => h.insert
  have hextend : ∀ (g : DependencyGraph) (link : Link),
      g.readings.Nodup → (g.extend link).readings.Nodup := by
    intro g link h
    cases link with
    | dependency source reader => exact hadd g source reader h
    | formula reader tree =>
        exact List.foldlRecOn (motive := fun g : DependencyGraph => g.readings.Nodup)
          tree.references _ h fun g h source _ => hadd g source reader h
  exact List.foldlRecOn (motive := fun g : DependencyGraph => g.readings.Nodup)
    links _ List.nodup_nil fun g h link _ => hextend g link h

/-- **A plan depends on the set of readings only.** -/
theorem plan_congr {g' : DependencyGraph} (hg : g.readings.Nodup) (hg' : g'.readings.Nodup)
    (h : ∀ x y, g.Reads x y ↔ g'.Reads x y) (items : List String) :
    g.plan items = g'.plan items := by
  have hreads : g.Reads = g'.Reads := funext fun x => funext fun y => propext (h x y)
  have hcircular : g.isCircular = g'.isCircular := by
    funext item
    rw [Bool.eq_iff_iff, isCircular_iff, isCircular_iff, Depends, Depends, hreads]
  have hlength : g.readings.length = g'.readings.length :=
    ((List.perm_ext_iff_of_nodup hg hg').mpr fun r => h r.reader r.source).length_eq
  have hwalk : g.walk (items.map normalize) ((items.map normalize).filter g'.isCircular)
      (g'.readings.length + 1) = g'.walk (items.map normalize)
        ((items.map normalize).filter g'.isCircular) (g'.readings.length + 1) :=
    funext fun w => funext fun item => walk_congr h _ w item
  simp only [plan, hcircular, hlength, hwalk]

/-! ## Correctness -/

/-- **A plan is correct.**  Whatever extensions made the graph and whatever items are listed, the
items put aside are those of the list on a cycle; the order lists the others, each once; and an item
stands behind every item of the order that it reads, directly or through items not put aside.  The
plan is the same for every graph with the same readings. -/
theorem plan_correct (links : List Link) (items : List String) :
    let g := build links
    let plan := g.plan items
    (∀ x y, g.Reads x y ↔ ∃ link ∈ links, ⟨x, y⟩ ∈ link.readings) ∧
    plan.circular = ((items.map normalize).filter fun x => g.Depends x x) ∧
    plan.order.Nodup ∧
    List.Disjoint plan.order plan.circular ∧
    (∀ x, x ∈ plan.order ∨ x ∈ plan.circular ↔ x ∈ items.map normalize) ∧
    (∀ x y, x ∈ plan.order → y ∈ plan.order → g.ReadsAround plan.circular x y →
      [y, x].Sublist plan.order) ∧
    ∀ links', (∀ x y, (build links').Reads x y ↔ g.Reads x y) →
      (build links').plan items = plan := by
  intro g plan
  have hcircular : ∀ x, x ∈ plan.circular ↔ x ∈ items.map normalize ∧ g.Depends x x := by
    intro x
    simp [plan, plan_circular]
  refine ⟨fun x y => reads_build, plan_circular, nodup_plan_order, ?_, fun x => ?_,
    fun x y => sublist_plan_order,
    fun links' h => plan_congr (nodup_build links') (nodup_build links) h items⟩
  · intro x horder hcirc
    exact (mem_plan_order.mp horder).2 ((hcircular x).mp hcirc).2
  · rw [mem_plan_order, hcircular]
    tauto

end DependencyGraph

end Markbook
