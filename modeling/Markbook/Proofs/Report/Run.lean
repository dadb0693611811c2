import Markbook.Proofs.Bindings
import Markbook.Proofs.Dependency.Plan
import Markbook.Proofs.Formula.Evaluation
import Markbook.Report.Calculation

/-!
# A calculation step by step

A lenient calculation binds one item after the other to the value of its formula under the bindings
so far.  No step reads what a later one binds, so at the end every item is bound to the value of its
formula under the *final* bindings: the run has solved all equations at once.

* `ComputedItem.Reads` — the names that an item reads.
* `ComputedItem.settle` — one step.
* `get?_foldl_settle` — the final bindings solve the equation of every item that was calculated.
* `Schedule.run_lenient` — the run of a schedule consists of such steps.
-/

namespace Markbook

/-! ## One step -/

namespace ComputedItem

def Reads (i : ComputedItem) (n : String) : Prop :=
  ∃ f, i.tree = .ok f ∧ n ∈ f.references

variable {i : ComputedItem} {b b' : Bindings}

lemma evaluate_congr {mode : Mode} (h : ∀ n, i.Reads n → b.get? n = b'.get? n) :
    i.evaluate mode b = i.evaluate mode b' := by
  rw [evaluate, evaluate]
  cases htree : i.tree with
  | error e => rfl
  | ok f =>
      exact Formula.evaluate_congr f fun n hn =>
        h n ⟨f, htree, by rwa [Formula.references, List.mem_eraseDups]⟩

/-- What a lenient calculation of the item makes of the bindings. -/
def settle (b : Bindings) (i : ComputedItem) : Bindings :=
  b.bind i.name (orZero (i.evaluate .lenient b))

lemma get?_settle_self : (settle b i).get? i.name = some (orZero (i.evaluate .lenient b)) := by
  rw [settle, Bindings.get?_bind, if_pos rfl]

lemma get?_settle_of_ne {n : String} (h : normalize i.name ≠ normalize n) :
    (settle b i).get? n = b.get? n :=
  Bindings.get?_bind_of_ne h

end ComputedItem

open ComputedItem (settle)

/-! ## All steps -/

/-- The items bind other names than `n`, so its score stays. -/
lemma get?_foldl_settle_of_ne {n : String} : ∀ {items : List ComputedItem} {b : Bindings},
    (∀ i ∈ items, normalize i.name ≠ normalize n) → (items.foldl settle b).get? n = b.get? n
  | [], _, _ => rfl
  | i :: rest, b, h => by
      have hrest := get?_foldl_settle_of_ne (b := settle b i)
        fun j hj => h j (List.mem_cons_of_mem i hj)
      exact hrest.trans (ComputedItem.get?_settle_of_ne (h i List.mem_cons_self))

/-- **The final bindings solve all equations.**  Under the bindings at the time of a step the item
has the same value as under the final ones, as neither the item itself nor a later one binds
anything that the item reads. -/
theorem get?_foldl_settle : ∀ {items : List ComputedItem} {b : Bindings},
    (∀ i ∈ items, ∀ n, i.Reads n → normalize n = n) →
    (∀ i ∈ items, ¬ i.Reads (normalize i.name)) →
    (items.Pairwise fun i j =>
      normalize i.name ≠ normalize j.name ∧ ¬ i.Reads (normalize j.name)) →
    ∀ i ∈ items, (items.foldl settle b).get? i.name =
      some (orZero (i.evaluate .lenient (items.foldl settle b)))
  | i :: rest, b, hplain, hself, hlater, j, hj => by
      obtain ⟨hfirst, hlater⟩ := List.pairwise_cons.mp hlater
      rw [List.foldl_cons]
      rcases List.mem_cons.mp hj with rfl | hj
      · have hbound : (rest.foldl settle (settle b j)).get? j.name =
            some (orZero (j.evaluate .lenient b)) := by
          rw [get?_foldl_settle_of_ne fun k hk heq => (hfirst k hk).1 heq.symm]
          exact ComputedItem.get?_settle_self
        have hsame : j.evaluate .lenient (rest.foldl settle (settle b j)) =
            j.evaluate .lenient b := by
          refine ComputedItem.evaluate_congr fun n hn => ?_
          have hn' := hplain j List.mem_cons_self n hn
          rw [get?_foldl_settle_of_ne, ComputedItem.get?_settle_of_ne]
          · intro heq
            exact hself j List.mem_cons_self (by rwa [heq, hn'])
          · intro k hk heq
            exact (hfirst k hk).2 (by rwa [heq, hn'])
        rw [hbound, hsame]
      · exact get?_foldl_settle (fun k hk => hplain k (List.mem_cons_of_mem i hk))
          (fun k hk => hself k (List.mem_cons_of_mem i hk)) hlater j hj

/-! ## The run of a schedule -/

namespace Schedule

lemma step_lenient (p : Progress) (i : ComputedItem) :
    ∃ q, step .lenient p i = .ok q ∧ q.bindings = settle p.bindings i := by
  rw [step.eq_def, settle]
  cases i.evaluate .lenient p.bindings with
  | ok x => exact ⟨_, rfl, rfl⟩
  | error e => exact ⟨_, rfl, rfl⟩

lemma foldlM_step_lenient : ∀ (items : List ComputedItem) (p : Progress),
    ∃ q, items.foldlM (step .lenient) p = .ok q ∧ q.bindings = items.foldl settle p.bindings
  | [], p => ⟨p, rfl, rfl⟩
  | i :: rest, p => by
      obtain ⟨q, hq, hbindings⟩ := step_lenient p i
      obtain ⟨r, hr, hrest⟩ := foldlM_step_lenient rest q
      refine ⟨r, ?_, ?_⟩
      · rw [List.foldlM_cons, hq]
        exact hr
      · rw [hrest, hbindings, List.foldl_cons]

/-- A lenient run settles the items in order. -/
lemma run_lenient (s : Schedule) (marks : Bindings) :
    ∃ p, s.run .lenient marks = .ok p ∧
      p.bindings = s.ordered.foldl settle (s.start marks) :=
  foldlM_step_lenient s.ordered ⟨s.start marks, 0, 0⟩

end Schedule

end Markbook
