import Markbook.Formula.Substitution
import Markbook.Proofs.Bindings
import Markbook.Proofs.Formula.Evaluation
import Markbook.Proofs.Formula.Mention

/-!
# What the value of a formula does not depend on

Bound names act on a formula twice.  The scanner takes some of them whole, the longest first, and
each name in the tree is looked up among them.  Both times it is only a matter of which names have
which scores: the scanner puts the names in an order of its own, and so does the substitution.  And
a name can only be taken or looked up where it stands in the text.

* `read_bound_congr` — the tree depends on which of the names that the text mentions are bound.
* `evaluateFormula_of_substrings` — **the value depends on the scores of these names**.
* `substitute_congr` — what is written into a text depends on the scores of all names.
* `results_of_lastScore` — **the order of binding and the spelling of names do not matter**.
-/

namespace Markbook

variable {mode : Mode} {b b' : Bindings} {text : String}

/-! ## Names that a text does not mention -/

lemma mem_names_congr {n : String} (h : normalize n = n → b.get? n = b'.get? n) :
    n ∈ b.names.map normalize ↔ n ∈ b'.names.map normalize := by
  rw [Bindings.mem_names, Bindings.mem_names]
  exact and_congr_right fun hplain => by rw [h hplain]

/-- The tree depends on which of the names that the text mentions are bound. -/
lemma read_bound_congr (h : ∀ n, normalize n = n → Mentions text n → b.get? n = b'.get? n) :
    Formula.read mode b.names text = Formula.read mode b'.names text :=
  Formula.read_congr fun n hn => mem_names_congr fun hplain => h n hplain hn

/-- Where the trees are the same, the value depends on what they read. -/
lemma evaluateFormula_congr
    (hread : Formula.read mode b.names text = Formula.read mode b'.names text)
    (hscores : ∀ f, Formula.read mode b'.names text = .ok f →
      ∀ n ∈ f.references, b.get? n = b'.get? n) :
    evaluateFormula mode b text = evaluateFormula mode b' text := by
  rw [evaluateFormula, evaluateFormula, hread]
  cases hf : Formula.read mode b'.names text with
  | error e => rfl
  | ok f =>
      exact Formula.evaluate_congr f fun n hn => hscores f hf n (Formula.mem_references.mpr hn)

/-- **Bindings that a formula does not mention have no influence on it.**  If two tables give the
same answer for every text that stands somewhere in the formula without its white space, be it the
empty one, the formula has the same value against both, or fails for the same reason. -/
theorem evaluateFormula_of_substrings
    (h : ∀ n : String, n.toList <:+: (normalize text).toList → b.get? n = b'.get? n)
    (mode : Mode) : evaluateFormula mode b text = evaluateFormula mode b' text := by
  have hmentions : ∀ n, normalize n = n → Mentions text n → b.get? n = b'.get? n := by
    intro n hplain hn
    rw [Mentions, hplain] at hn
    exact h n hn
  refine evaluateFormula_congr (read_bound_congr hmentions) fun f hf n hn => ?_
  exact hmentions n (Formula.normalize_of_mem_references hf hn)
    (Formula.mentions_of_mem_references hf hn)

/-- Names that overlap with a name in the formula, go on behind it or differ from one in case. -/
theorem evaluateFormula_of_strangers :
    let text := "Lab-1 * 2 + [Final exam]"
    let b := Bindings.ofList [("Lab-1", 7), ("Final exam", 0.5)]
    let b' := b.extend [("ab-1*3", 1), ("Lab-1*2+F", 9), ("Lab -12", 0), ("final exam", 4)]
    (∀ n : String, n.toList <:+: (normalize text).toList → b.get? n = b'.get? n) ∧
      evaluateFormula .strict b text = .ok 14.5 ∧ evaluateFormula .strict b' text = .ok 14.5 := by
  intro text b b'
  have hstrangers : ∀ m ∈ ["ab-1*3", "Lab-1*2+F", "Lab -12", "final exam"],
      ¬ Mentions text m := by decide +kernel
  have hsame : ∀ n : String, n.toList <:+: (normalize text).toList → b.get? n = b'.get? n := by
    intro n hn
    have hplain : normalize n = n := normalize_eq_self.mpr fun c hc =>
      Formula.forall_isBlank_normalize text c (hn.subset hc)
    refine (Bindings.get?_extend_of_notMem fun e he heq => ?_).symm
    refine hstrangers e.1 (by simpa using List.mem_map_of_mem he) ?_
    rwa [Mentions, heq, hplain]
  have hvalue : evaluateFormula .strict b text = .ok 14.5 := by
    rw [eq_ok_of_isOk (r := evaluateFormula .strict b text) (by decide +kernel)]
    exact congrArg _ (by decide +kernel)
  exact ⟨hsame, hvalue, (evaluateFormula_of_substrings hsame .strict).symm.trans hvalue⟩

/-! ## All names -/

lemma substitutionOrder_congr (h : ∀ n, b.get? n = b'.get? n) :
    substitutionOrder b = substitutionOrder b' :=
  orderedSet_congr longerFirst_strictTotal fun n => by
    rw [List.mem_filter, List.mem_filter, mem_names_congr fun _ => h n]

/-- What is written into a text depends on the scores of all names. -/
lemma substitute_congr (h : ∀ n, b.get? n = b'.get? n) :
    substitute b text = substitute b' text := by
  have hsubstitutions : substitutions b = substitutions b' := by
    simp only [substitutions, substitutionOrder_congr h, h]
  rw [substitute, substitute, hsubstitutions]

/-- **Order and spelling of bindings do not matter.**  Two tables are made by binding one name after
the other, in any order and with any white space in the names, some of them more than once.  If
every name has the same last score in both, then every formula has the same values against both or
fails for the same reasons, and what is written into it is the same as well. -/
theorem results_of_lastScore {scores scores' : List (String × Float)}
    (h : ∀ n, lastScore? scores n = lastScore? scores' n) (text : String) :
    let b := Bindings.ofList scores
    let b' := Bindings.ofList scores'
    (∀ mode, evaluateFormula mode b text = evaluateFormula mode b' text) ∧
      orZero (evaluateFormula .lenient b text) = orZero (evaluateFormula .lenient b' text) ∧
      substitute b text = substitute b' text ∧
      evaluateSubstituted b text = evaluateSubstituted b' text := by
  intro b b'
  have hget : ∀ n, b.get? n = b'.get? n := by
    intro n
    rw [Bindings.get?_ofList, Bindings.get?_ofList, h]
  have hvalue : ∀ mode, evaluateFormula mode b text = evaluateFormula mode b' text := fun mode =>
    evaluateFormula_congr (read_bound_congr fun n _ _ => hget n) fun _ _ n _ => hget n
  have hsubstitute : substitute b text = substitute b' text := substitute_congr hget
  exact ⟨hvalue, by rw [hvalue], hsubstitute, by rw [evaluateSubstituted, evaluateSubstituted,
    hsubstitute]⟩

/-- Names with others inside them, bound in another order and with other white space. -/
theorem results_of_respelling :
    let text := "Test-1 * 2 + Test 1 - [Test]"
    let scores : List (String × Float) :=
      [("Test 1", 3), ("Test-1", 10), ("Test", 4), (" Test1", 5)]
    let scores' : List (String × Float) := [("Test", 4), ("Te st 1", 5), ("Test -1", 10)]
    (∀ n, lastScore? scores n = lastScore? scores' n) ∧
      evaluateFormula .strict (.ofList scores) text = .ok 21 ∧
      evaluateFormula .strict (.ofList scores') text = .ok 21 ∧
      substitute (.ofList scores') text = "10*2+5-4" := by
  intro text scores scores'
  have hplain : normalize "Test 1" = "Test1" ∧ normalize " Test1" = "Test1" ∧
      normalize "Te st 1" = "Test1" ∧ normalize "Test-1" = "Test-1" ∧
      normalize "Test -1" = "Test-1" ∧ normalize "Test" = "Test" := by decide +kernel
  have hsame : ∀ n, lastScore? scores n = lastScore? scores' n := by
    intro n
    simp only [lastScore?, scores, scores', sameName, List.reverse_cons, List.reverse_nil,
      List.nil_append, List.cons_append, List.find?_cons, hplain]
    generalize normalize n = m
    by_cases h₁ : "Test1" = m
    · subst h₁
      rfl
    · by_cases h₂ : "Test-1" = m
      · subst h₂
        rfl
      · rw [beq_eq_false_iff_ne.mpr h₁, beq_eq_false_iff_ne.mpr h₂]
  have hvalue : evaluateFormula .strict (.ofList scores) text = .ok 21 := by
    rw [eq_ok_of_isOk (r := evaluateFormula .strict (.ofList scores) text) (by decide +kernel)]
    exact congrArg _ (by decide +kernel)
  have hwritten : substitute (.ofList scores) text = "10*2+5-4" := by decide +kernel
  obtain ⟨hvalues, _, hsubstitute, _⟩ := results_of_lastScore hsame text
  exact ⟨hsame, hvalue, (hvalues .strict).symm.trans hvalue, hsubstitute.symm.trans hwritten⟩

end Markbook
