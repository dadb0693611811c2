import Markbook.Formula.Evaluation
import Markbook.Proofs.Formula.Leaves
import Markbook.Proofs.Text.LowerCase

/-!
# Strict and lenient values

A strict reading or evaluation that succeeds gives what the lenient one gives.  A strict evaluation
looks at every part of a tree, so it succeeds if and only if every name has a score and every
function is registered.

The parser writes functions in lower case, and among texts in lower case the registry knows no
names but those that its functions are registered with.

* `read_lenient_of_strict`, `evaluate_lenient_of_strict` — from strict to lenient.
* `exists_evaluate_strict` — when there is a strict value.
* `isRegistered_lowerCase` — the functions in trees that are registered.
-/

namespace Markbook

/-! ## Results that depend on others -/

lemma Except.exists_bind_eq_ok {ε α β : Type} {x : Except ε α} {f : α → Except ε β} :
    (∃ r, (x >>= f) = .ok r) ↔ ∃ a, x = .ok a ∧ ∃ r, f a = .ok r := by
  cases x with
  | error e => simp [bind, Except.bind]
  | ok a => simp [bind, Except.bind]

lemma Except.bind_eq_ok {ε α β : Type} {x : Except ε α} {f : α → Except ε β} {r : β} :
    (x >>= f) = .ok r ↔ ∃ a, x = .ok a ∧ f a = .ok r := by
  cases x with
  | error e => simp [bind, Except.bind]
  | ok a => simp [bind, Except.bind]

namespace Formula

variable {b : Bindings}

/-! ## From strict to lenient -/

/-- A formula that is read strictly is read leniently with the same tree. -/
lemma read_lenient_of_strict {names : List String} {text : String} {f : Formula}
    (h : read .strict names text = .ok f) : read .lenient names text = .ok f :=
  parseWith_lenient_of_grammatical (parseWith_strict_iff.mp h)

lemma lookup_lenient_of_strict {n : String} {x : Float} (h : b.lookup .strict n = .ok x) :
    b.lookup .lenient n = .ok x := by
  cases hn : b.get? n with
  | none => simp [Bindings.lookup, hn] at h
  | some y => simpa [Bindings.lookup, hn] using h

mutual

/-- **A strict value is the lenient value.** -/
theorem evaluate_lenient_of_strict : ∀ (f : Formula) {x : Float},
    f.evaluate .strict b = .ok x → f.evaluate .lenient b = .ok x
  | number y, x, h => by rwa [evaluate] at h ⊢
  | name n, x, h => by
      rw [evaluate] at h ⊢
      exact lookup_lenient_of_strict h
  | binary op l r, x, h => by
      rw [evaluate] at h ⊢
      obtain ⟨y, hy, h⟩ := Except.bind_eq_ok.mp h
      obtain ⟨z, hz, h⟩ := Except.bind_eq_ok.mp h
      rw [evaluate_lenient_of_strict l hy, evaluate_lenient_of_strict r hz]
      exact h
  | negate f, x, h => by
      rw [evaluate] at h ⊢
      obtain ⟨y, hy, h⟩ := Except.bind_eq_ok.mp h
      rw [evaluate_lenient_of_strict f hy]
      exact h
  | call g args, x, h => by
      rw [evaluate.eq_def] at h ⊢
      cases hg : Registry.standard.get? g with
      | none => simp [hg] at h
      | some f =>
          simp only [hg] at h ⊢
          obtain ⟨xs, hxs, h⟩ := Except.bind_eq_ok.mp h
          rw [evaluateAll_lenient_of_strict args hxs]
          exact h

theorem evaluateAll_lenient_of_strict : ∀ (fs : List Formula) {xs : List Float},
    evaluateAll .strict b fs = .ok xs → evaluateAll .lenient b fs = .ok xs
  | [], xs, h => by rwa [evaluateAll] at h ⊢
  | f :: fs, xs, h => by
      rw [evaluateAll] at h ⊢
      obtain ⟨y, hy, h⟩ := Except.bind_eq_ok.mp h
      obtain ⟨ys, hys, h⟩ := Except.bind_eq_ok.mp h
      rw [evaluate_lenient_of_strict f hy, evaluateAll_lenient_of_strict fs hys]
      exact h

end

/-! ## When there is a strict value -/

/-- Is the function one that every formula can call? -/
def isRegistered (g : String) : Bool :=
  (Registry.standard.get? g).isSome

mutual

/-- **A strict evaluation succeeds** exactly if every name has a score and every function is
registered. -/
theorem exists_evaluate_strict : ∀ f : Formula, (∃ x, f.evaluate .strict b = .ok x) ↔
    (∀ n ∈ f.occurrences, (b.get? n).isSome = true) ∧ ∀ g ∈ f.functions, isRegistered g = true
  | number x => by simp [evaluate, occurrences, functions]
  | name n => by
      cases hn : b.get? n <;> simp [evaluate, occurrences, functions, Bindings.lookup, hn]
  | binary op l r => by
      have hl := exists_evaluate_strict l
      have hr := exists_evaluate_strict r
      simp only [evaluate, Except.exists_bind_eq_ok, pure, Except.pure, Except.ok.injEq,
        exists_eq', and_true, exists_and_right, hl, hr, occurrences, functions,
        List.forall_mem_append]
      exact and_and_and_comm
  | negate f => by
      have hf := exists_evaluate_strict f
      simpa only [evaluate, Except.exists_bind_eq_ok, pure, Except.pure, Except.ok.injEq,
        exists_eq', and_true, occurrences, functions] using hf
  | call g args => by
      have hargs := exists_evaluateAll_strict args
      rw [occurrences, functions, List.forall_mem_cons, isRegistered]
      cases hg : Registry.standard.get? g with
      | none => simp [evaluate, hg]
      | some f =>
          simp only [evaluate, hg, Except.exists_bind_eq_ok, pure, Except.pure, Except.ok.injEq,
            exists_eq', and_true, hargs, Option.isSome_some, true_and]

theorem exists_evaluateAll_strict : ∀ fs : List Formula,
    (∃ xs, evaluateAll .strict b fs = .ok xs) ↔
      (∀ n ∈ occurrencesAll fs, (b.get? n).isSome = true) ∧
        ∀ g ∈ functionsAll fs, isRegistered g = true
  | [] => by simp [evaluateAll, occurrencesAll, functionsAll]
  | f :: fs => by
      have hf := exists_evaluate_strict f
      have hfs := exists_evaluateAll_strict fs
      simp only [evaluateAll, Except.exists_bind_eq_ok, pure, Except.pure, Except.ok.injEq,
        exists_eq', and_true, exists_and_right, hf, hfs, occurrencesAll, functionsAll,
        List.forall_mem_append]
      exact and_and_and_comm

end

/-! ## Functions in trees -/

/-- The registered functions have names in lower case. -/
lemma isRegistered_iff {g : String} :
    isRegistered g = true ↔ lowerCase g ∈ ["max", "min", "avg", "mean"] := by
  have hsame : ∀ f ∈ Registry.standard.functions, lowerCase f.name = f.name := by decide
  have hnames : Registry.standard.functions.map (·.name) = ["max", "min", "avg", "mean"] := rfl
  rw [isRegistered, Registry.get?, List.find?_isSome, ← hnames, List.mem_map]
  constructor
  · rintro ⟨f, hf, heq⟩
    exact ⟨f, hf, (hsame f hf).symm.trans (eq_of_beq heq)⟩
  · rintro ⟨f, hf, heq⟩
    exact ⟨f, hf, beq_iff_eq.mpr ((hsame f hf).trans heq)⟩

/-- **A function in lower case is registered** exactly if it is one of the four. -/
lemma isRegistered_lowerCase {text : String} :
    isRegistered (lowerCase text) = true ↔ lowerCase text ∈ ["max", "min", "avg", "mean"] := by
  rw [isRegistered_iff, lowerCase_lowerCase]

/-- The functions in a tree are registered exactly if they are among the four. -/
lemma isRegistered_of_read {names : List String} {text g : String} {f : Formula}
    (h : read .strict names text = .ok f) (hg : g ∈ f.functions) :
    isRegistered g = true ↔ g ∈ ["max", "min", "avg", "mean"] := by
  have hderives := (parseWith_strict_iff.mp h).1
  obtain ⟨w, _, rfl⟩ := calls_of_derives hderives g (by simpa [functionsAll] using hg)
  exact isRegistered_lowerCase

end Formula

end Markbook
