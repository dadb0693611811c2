import Mathlib.Tactic.Common
import Markbook.Formula.Evaluation

/-!
# What a value depends on

The value of a tree depends on the scores of the names in it and on nothing else, so bindings that
agree on those names are as good as each other.  A lenient evaluation has a value in any case.

* `evaluate_congr` — bindings that agree on the names give the same value.
* `exists_evaluate_lenient` — there is always a lenient value.
-/

namespace Markbook

variable {mode : Mode} {b b' : Bindings}

lemma eq_ok_of_isOk {r : Except FormulaError Float} (h : r.isOk = true) : r = .ok (orZero r) := by
  cases r with
  | error cause => cases h
  | ok x => rfl

lemma Bindings.lookup_congr {n : String} (h : b.get? n = b'.get? n) :
    b.lookup mode n = b'.lookup mode n := by
  simp only [Bindings.lookup, h]

/-- A name without a score counts as zero. -/
lemma Bindings.lookup_lenient (b : Bindings) (n : String) :
    b.lookup .lenient n = .ok ((b.get? n).getD 0) := by
  cases hn : b.get? n <;> simp [Bindings.lookup, hn]

namespace Formula

mutual

/-- **A value depends on the scores of the names in the tree only.** -/
theorem evaluate_congr : ∀ f : Formula, (∀ n ∈ f.occurrences, b.get? n = b'.get? n) →
    f.evaluate mode b = f.evaluate mode b'
  | number x, _ => by rw [evaluate, evaluate]
  | name n, h => by
      rw [evaluate, evaluate]
      exact Bindings.lookup_congr (h n (by simp [occurrences]))
  | binary op l r, h => by
      have hl := evaluate_congr l fun n hn => h n (by simp [occurrences, hn])
      have hr := evaluate_congr r fun n hn => h n (by simp [occurrences, hn])
      rw [evaluate, evaluate, hl, hr]
  | negate f, h => by
      have hf := evaluate_congr f fun n hn => h n (by simpa [occurrences] using hn)
      rw [evaluate, evaluate, hf]
  | call g args, h => by
      have hargs := evaluateAll_congr args fun n hn => h n (by simpa [occurrences] using hn)
      simp only [evaluate, hargs]

theorem evaluateAll_congr : ∀ fs : List Formula,
    (∀ n ∈ occurrencesAll fs, b.get? n = b'.get? n) →
      evaluateAll mode b fs = evaluateAll mode b' fs
  | [], _ => by rw [evaluateAll, evaluateAll]
  | f :: fs, h => by
      have hf := evaluate_congr f fun n hn => h n (by simp [occurrencesAll, hn])
      have hfs := evaluateAll_congr fs fun n hn => h n (by simp [occurrencesAll, hn])
      rw [evaluateAll, evaluateAll, hf, hfs]

end

mutual

/-- **A lenient evaluation always has a value.** -/
theorem exists_evaluate_lenient : ∀ f : Formula, ∃ x, f.evaluate .lenient b = .ok x
  | number x => ⟨x, by rw [evaluate]⟩
  | name n => ⟨_, by rw [evaluate, Bindings.lookup_lenient]⟩
  | binary op l r => by
      obtain ⟨x, hx⟩ := exists_evaluate_lenient l
      obtain ⟨y, hy⟩ := exists_evaluate_lenient r
      exact ⟨op.apply x y, by rw [evaluate, hx, hy]; rfl⟩
  | negate f => by
      obtain ⟨x, hx⟩ := exists_evaluate_lenient f
      exact ⟨-x, by rw [evaluate, hx]; rfl⟩
  | call g args => by
      obtain ⟨xs, hxs⟩ := exists_evaluateAll_lenient args
      cases hg : Registry.standard.get? g with
      | none => exact ⟨0, by simp only [evaluate, hg]⟩
      | some f => exact ⟨f.rule.apply xs, by simp only [evaluate, hg, hxs]; rfl⟩

theorem exists_evaluateAll_lenient : ∀ fs : List Formula, ∃ xs, evaluateAll .lenient b fs = .ok xs
  | [] => ⟨[], by rw [evaluateAll]⟩
  | f :: fs => by
      obtain ⟨x, hx⟩ := exists_evaluate_lenient f
      obtain ⟨xs, hxs⟩ := exists_evaluateAll_lenient fs
      exact ⟨x :: xs, by rw [evaluateAll, hx, hxs]; rfl⟩

end

end Formula

end Markbook
