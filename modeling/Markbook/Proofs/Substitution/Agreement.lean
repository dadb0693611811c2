import Markbook.Proofs.Formula.Names
import Markbook.Proofs.Ordered
import Markbook.Proofs.Substitution.Value

/-!
# The two ways to a value agree

A formula can be evaluated against the bindings, or the scores can be written into its text and what
is left evaluated without any.  For names that are identifiers both ways give the same value, on
every formula that a strict reading accepts.

* `get?_substitutions` — the scores that are written in are those of the bindings.
* `evaluateFormula_of_grammatical`, `evaluateSubstituted_of_derives` — each way, from the grammar.
* `evaluateSubstituted_eq` — the agreement.
-/

namespace Markbook

variable {b : Bindings}

/-! ## The scores that are written in -/

lemma find?_filterMap_get? {n : String} : ∀ {names : List String},
    (∀ m ∈ names, normalize m = m) →
      (names.filterMap fun m => (b.get? m).map (⟨m, ·⟩ : Float → Binding)).find?
        (sameName ·.name n) =
      if normalize n ∈ names then (b.get? n).map (⟨normalize n, ·⟩) else none
  | [], _ => by simp
  | m :: names, h => by
      obtain ⟨hm, hnames⟩ := List.forall_mem_cons.mp h
      have ih := find?_filterMap_get? (n := n) hnames
      by_cases heq : normalize n = m
      · have hget : b.get? m = b.get? n := Bindings.get?_congr (by rw [hm, heq])
        rw [List.filterMap_cons, hget, if_pos (by simp [heq])]
        cases hx : b.get? n with
        | none => simpa [hx] using ih
        | some x => simp [sameName, hm, heq]
      · have hsame : sameName m n = false := by
          rw [Bool.eq_false_iff, ne_eq, sameName_iff, hm]
          exact fun h => heq h.symm
        have hmem : normalize n ∈ m :: names ↔ normalize n ∈ names := by simp [heq]
        simp only [hmem, ← ih, List.filterMap_cons]
        cases b.get? m <;> simp [hsame]

lemma normalize_of_mem_substitutionOrder {m : String} (h : m ∈ substitutionOrder b) :
    normalize m = m := by
  rw [substitutionOrder, mem_orderedSet] at h
  obtain ⟨k, _, rfl⟩ := List.mem_map.mp (List.mem_of_mem_filter h)
  exact normalize_normalize k

/-- **The scores that are written in are those of the bindings.** -/
lemma get?_substitutions (hnames : ∀ e ∈ b.entries, normalize e.name ≠ "") (n : String) :
    (⟨substitutions b⟩ : Bindings).get? n = b.get? n := by
  have hplain : ∀ m ∈ substitutionOrder b, normalize m = m :=
    fun _ => normalize_of_mem_substitutionOrder
  have hfind := find?_filterMap_get? (b := b) (n := n) hplain
  rw [Bindings.get?, substitutions, hfind]
  split_ifs with hmem
  · cases b.get? n <;> rfl
  · -- a bound name is among those whose scores are written in
    cases hx : b.get? n with
    | none => rfl
    | some x =>
        obtain ⟨e, he, _⟩ := Option.map_eq_some_iff.mp hx
        have hentry := List.mem_of_find?_eq_some he
        have hsame : normalize e.name = normalize n := by simpa using List.find?_some he
        refine absurd ?_ hmem
        rw [substitutionOrder, mem_orderedSet, List.mem_filter, ← hsame]
        refine ⟨List.mem_map_of_mem (List.mem_map_of_mem hentry), ?_⟩
        simpa using hnames e hentry

/-- A score that is written in comes from a binding, under the plain form of its name. -/
lemma exists_of_mem_substitutions {e : Binding} (h : e ∈ substitutions b) :
    ∃ e' ∈ b.entries, normalize e'.name = e.name ∧ e'.score = e.score := by
  obtain ⟨m, hm, hget⟩ := List.mem_filterMap.mp h
  obtain ⟨x, hx, rfl⟩ := Option.map_eq_some_iff.mp hget
  obtain ⟨e', he', rfl⟩ := Option.map_eq_some_iff.mp hx
  refine ⟨e', List.mem_of_find?_eq_some he', ?_, rfl⟩
  have hsame : normalize e'.name = normalize m := by simpa using List.find?_some he'
  rw [hsame, normalize_of_mem_substitutionOrder hm]

/-- Identifiers are runs of name characters, so the scanner need not know them. -/
lemma punctuatedNames_eq_nil (h : ∀ e ∈ b.entries, IsIdentifier (normalize e.name).toList) :
    punctuatedNames b.names = [] := by
  have hnone : (b.names.map normalize).filter isPunctuated = [] := by
    rw [List.filter_eq_nil_iff]
    intro m hm
    obtain ⟨k, hk, rfl⟩ := List.mem_map.mp hm
    obtain ⟨e, he, rfl⟩ := List.mem_map.mp hk
    have hall : (normalize e.name).toList.all isNameChar = true :=
      List.all_eq_true.mpr fun c hc => isNameChar_of_isIdentifierChar ((h e he).chars c hc)
    simp only [isPunctuated, hall, Bool.not_true, Bool.and_false, Bool.false_eq_true,
      not_false_eq_true]
  rw [punctuatedNames, hnone]
  rfl

/-! ## Both ways -/

lemma evaluateFormula_of_grammatical {text : String} {f : Formula}
    (h : Grammatical (tokens [] (normalize text)) f)
    (hnames : ∀ e ∈ b.entries, IsIdentifier (normalize e.name).toList) :
    evaluateFormula .lenient b text = f.evaluate .lenient b := by
  have hread : Formula.read .lenient b.names text = .ok f := by
    rw [Formula.read, punctuatedNames_eq_nil hnames]
    exact parseWith_lenient_of_grammatical h
  rw [evaluateFormula, hread]
  rfl

lemma evaluateSubstituted_of_derives {text : String} {n : Nat} {f : Formula}
    (h : Derives .expression n (tokens [] (substitute b text)) [f])
    (hdepth : Formula.parse .lenient (substitute b text) ≠ .error (.parse .tooDeep))
    (hoperators : Formula.parse .lenient (substitute b text) ≠
      .error (.parse .tooManyOperators)) :
    evaluateSubstituted b text = orZero (f.evaluate .lenient .empty) := by
  have hparse : Formula.parse .lenient (substitute b text) = .ok f := by
    rcases parseWith_lenient_of_derives h with hok | ⟨hdeep, _⟩ | ⟨hmany, _⟩
    · exact hok
    · exact absurd hdeep hdepth
    · exact absurd hmany hoperators
  rw [evaluateSubstituted, evaluateExpression, hparse]
  rfl

/-- **The two ways to a value agree on identifiers.**  The formula is an ASCII text that a strict
reading accepts, with no opening bracket in a bracketed name; the bound names are identifiers, none
of them a word directly before a parenthesis in it; and the scores are finite.  Then writing the
scores into the text and evaluating what is left gives the value of the formula against the
bindings, unless the text with the scores goes beyond the limits of the parser.

That the text of a score reads back as the score is a matter of how doubles are printed and read,
and is taken for granted. -/
theorem evaluateSubstituted_eq {text : String}
    (hascii : ∀ c ∈ text.toList, c.toNat < 128)
    (hstrict : (Formula.read .strict [] text).isOk = true)
    (hbrackets : ∀ n, .name n ∈ tokens [] (normalize text) → '[' ∉ n.toList)
    (hnames : ∀ e ∈ b.entries, IsIdentifier (normalize e.name).toList)
    (hcalls : ∀ e ∈ b.entries,
      ¬ [.word (normalize e.name), .leftParen] <:+: tokens [] (normalize text))
    (hfinite : ∀ e ∈ b.entries, e.score.isFinite = true)
    (hback : ∀ e ∈ b.entries, readScore? (printScore e.score) = some e.score)
    (hdepth : Formula.parse .lenient (substitute b text) ≠ .error (.parse .tooDeep))
    (hoperators : Formula.parse .lenient (substitute b text) ≠
      .error (.parse .tooManyOperators)) :
    orZero (evaluateFormula .lenient b text) = evaluateSubstituted b text := by
  obtain ⟨f, hread⟩ : ∃ f, Formula.read .strict [] text = .ok f := by
    cases hread : Formula.read .strict [] text with
    | error cause =>
        rw [hread] at hstrict
        cases hstrict
    | ok f => exact ⟨f, rfl⟩
  have hgrammatical : Grammatical (tokens [] (normalize text)) f :=
    parseWith_strict_iff.mp hread
  have hmem : ∀ c ∈ (normalize text).toList, c ∈ text.toList ∧ isBlank c = false := by
    intro c hc
    rw [toList_normalize, List.mem_filter] at hc
    simpa using hc
  have hrenders := renders_of_derives hgrammatical.1
    (fun c hc => hascii c (hmem c hc).1) (fun c hc => (hmem c hc).2) hbrackets
  have hwritable : ∀ e ∈ substitutions b, Writable e := by
    intro e he
    obtain ⟨e', hentry, hname, hscore⟩ := exists_of_mem_substitutions he
    exact ⟨hname ▸ hnames e' hentry, hscore ▸ hfinite e' hentry, hscore ▸ hback e' hentry⟩
  have huncalled : Uncalled ((substitutions b).map (·.name)) (tokens [] (normalize text)) := by
    refine (List.isChain_isInfix _).imp fun t u hinfix heq w hw hname => ?_
    obtain ⟨e, he, rfl⟩ := List.mem_map.mp hname
    obtain ⟨e', hentry, hname, _⟩ := exists_of_mem_substitutions he
    refine hcalls e' hentry ?_
    rwa [hname, ← hw, ← heq]
  obtain ⟨m, g, hderives, hvalue⟩ :=
    exists_derives_foldl hwritable hrenders hgrammatical.1 huncalled
  have hsubstituted : Derives .expression m (tokens [] (substitute b text)) [g] := by
    rw [tokens, substitute, String.toList_ofList]
    exact hderives
  rw [evaluateFormula_of_grammatical hgrammatical hnames,
    evaluateSubstituted_of_derives hsubstituted hdepth hoperators, ← hvalue]
  congr 1
  refine Formula.evaluate_congr f fun n _ => (get?_substitutions (fun e he heq => ?_) n).symm
  obtain ⟨c, hc, _⟩ := (hnames e he).nonDigit
  simp [heq] at hc

/-- Names within other names, a name within unbound brackets, and a negative score. -/
def sampleBindings : Bindings :=
  .ofList [("Test", 4), ("Test 1", -2.5), ("x_1", 1e21)]

/-- Both ways to the value of a formula. -/
theorem sample_agreement :
    let text := "2*Test1 - [Test] + max([A-Test], [Test 1], y) / -x_1"
    substitute sampleBindings text = "2*-2.5-4+max([A-4],-2.5,y)/-1000000000000000000000" ∧
      orZero (evaluateFormula .lenient sampleBindings text) =
        evaluateSubstituted sampleBindings text := by
  intro text
  have hok : (Formula.parse .lenient (substitute sampleBindings text)).isOk = true := by
    decide +kernel
  have hlimit : ∀ e, Formula.parse .lenient (substitute sampleBindings text) ≠ .error e := by
    intro e he
    rw [he] at hok
    cases hok
  have hbrackets : ∀ t ∈ tokens [] (normalize text), ∀ n ∈ t.name?, '[' ∉ n.toList := by
    decide +kernel
  have hascii : text.toList.all (·.toNat < 128) = true := by decide +kernel
  exact ⟨by decide +kernel, evaluateSubstituted_eq (by simpa using hascii) (by decide +kernel)
    (fun n hn => hbrackets _ hn n rfl) (by decide +kernel) (by decide +kernel)
    (by decide +kernel) (by decide +kernel) (hlimit _) (hlimit _)⟩

end Markbook
