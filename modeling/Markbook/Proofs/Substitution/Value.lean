import Mathlib.Data.List.Forall2
import Markbook.Proofs.Bindings
import Markbook.Proofs.Formula.Evaluation
import Markbook.Proofs.Substitution.Tokens

/-!
# Writing a score into a formula keeps its value

Where the tokens of a formula are derived, so are the tokens with a score written in, one level
deeper to make room for a minus.  The tree differs in the operands that read the name: they have the
score itself now.  So its value, without the binding, is the value of the old tree with it.

* `SameValue` — trees that have the same value under two bindings.
* `Refilled`, `Derives.flatMap_fill` — the tree of the tokens with a score written in.
* `Renders.binds` — what stands in other brackets stays unbound.
-/

namespace Markbook

/-- Two trees have the same value, each under bindings of its own. -/
def SameValue (b b' : Bindings) (f f' : Formula) : Prop :=
  f.evaluate .lenient b = f'.evaluate .lenient b'

variable {b b' : Bindings} {e : Binding}

namespace SameValue

lemma binary {op : BinaryOp} {l l' r r' : Formula} (hl : SameValue b b' l l')
    (hr : SameValue b b' r r') : SameValue b b' (.binary op l r) (.binary op l' r') := by
  rw [SameValue] at hl hr ⊢
  rw [Formula.evaluate, Formula.evaluate, hl, hr]

lemma negate {f f' : Formula} (hf : SameValue b b' f f') :
    SameValue b b' (.negate f) (.negate f') := by
  rw [SameValue] at hf ⊢
  rw [Formula.evaluate, Formula.evaluate, hf]

lemma evaluateAll {fs fs' : List Formula} (h : List.Forall₂ (SameValue b b') fs fs') :
    Formula.evaluateAll .lenient b fs = Formula.evaluateAll .lenient b' fs' := by
  induction h with
  | nil => rw [Formula.evaluateAll, Formula.evaluateAll]
  | cons hf _ ih =>
      rw [SameValue] at hf
      rw [Formula.evaluateAll, Formula.evaluateAll, hf, ih]

lemma call {g : String} {fs fs' : List Formula} (h : List.Forall₂ (SameValue b b') fs fs') :
    SameValue b b' (.call g fs) (.call g fs') := by
  simp only [SameValue, Formula.evaluate, evaluateAll h]

lemma name {n n' : String} (h : b.get? n = b'.get? n') : SameValue b b' (.name n) (.name n') := by
  rw [SameValue, Formula.evaluate, Formula.evaluate, Bindings.lookup_lenient,
    Bindings.lookup_lenient, h]

end SameValue

/-! ## The tree of a score -/

/-- The tokens of a score make up an operand with the score as its value. -/
lemma Writable.derives_scoreTokens (h : Writable e) (n : Nat) {m : String}
    (hm : b.get? m = some e.score) : ∃ f, Derives .factor (n + 2) (scoreTokens e.score) [f] ∧
      SameValue b b' (.name m) f := by
  have hvalue : Formula.evaluate .lenient b (.name m) = .ok e.score := by
    rw [Formula.evaluate, Bindings.lookup_lenient, hm]
    rfl
  obtain ⟨_, x, ⟨htokens, hx⟩ | ⟨htokens, hx⟩⟩ := h.scoreTokens_eq
  · refine ⟨.number x, htokens ▸ .number, ?_⟩
    rw [SameValue, hvalue, Formula.evaluate, hx]
  · refine ⟨.negate (.number x), htokens ▸ .minus .number, ?_⟩
    rw [SameValue, hvalue, Formula.evaluate, Formula.evaluate, ← hx]
    rfl

/-! ## The tree of a formula -/

/-- The bindings `b` are `b'` together with the binding `e`, as far as the tokens go.  What stands
in other brackets may be rewritten. -/
structure Binds (e : Binding) (b b' : Bindings) (ts : List Token) : Prop where
  score : b.get? e.name = some e.score
  word : ∀ w, .word w ∈ ts → w ≠ e.name → b.get? w = b'.get? w
  name : ∀ n, .name n ∈ ts → n ≠ e.name → b.get? n = b'.get?
    (String.ofList (replaceWord e.name.toList (printScore e.score).toList n.toList))

lemma Binds.subset {ts us : List Token} (h : Binds e b b' us) (hsub : ts ⊆ us) :
    Binds e b b' ts :=
  ⟨h.score, fun w hw => h.word w (hsub hw), fun n hn => h.name n (hsub hn)⟩

lemma Binds.of_append {ts us : List Token} {t : Token} (h : Binds e b b' (ts ++ t :: us)) :
    Binds e b b' ts ∧ Binds e b b' us :=
  ⟨h.subset (List.subset_append_left _ _),
    h.subset fun _ hu => List.mem_append_right _ (List.mem_cons_of_mem _ hu)⟩

lemma Uncalled.of_append {names : List String} {ts us : List Token} {t : Token}
    (h : Uncalled names (ts ++ t :: us)) : Uncalled names ts ∧ Uncalled names us := by
  obtain ⟨hts, hus, _⟩ := List.isChain_append.mp h
  exact ⟨hts, hus.tail⟩

lemma flatMap_fill_around {ts us : List Token} {t : Token} (ht : t.isOperand = false) :
    (ts ++ t :: us).flatMap (fill e) = ts.flatMap (fill e) ++ t :: us.flatMap (fill e) := by
  rw [List.flatMap_append, List.flatMap_cons, fill_of_not_operand ht]
  rfl

/-- With the score written in, tokens are derived with trees of the same values. -/
def Refilled (e : Binding) (b b' : Bindings) (part : Part) (n : Nat) (ts : List Token)
    (fs : List Formula) : Prop :=
  ∃ fs', Derives part (n + 1) (ts.flatMap (fill e)) fs' ∧ List.Forall₂ (SameValue b b') fs fs'

namespace Refilled

variable {part : Part} {n : Nat} {ts us : List Token} {t : Token} {f g : Formula}
  {gs : List Formula}

lemma single_iff : Refilled e b b' part n ts [f] ↔
    ∃ f', Derives part (n + 1) (ts.flatMap (fill e)) [f'] ∧ SameValue b b' f f' := by
  constructor
  · rintro ⟨fs', hfs', hsame⟩
    obtain ⟨f', rest, hf, hnil, rfl⟩ := List.forall₂_cons_left_iff.mp hsame
    cases hnil
    exact ⟨f', hfs', hf⟩
  · rintro ⟨f', hf', hsame⟩
    exact ⟨[f'], hf', .cons hsame .nil⟩

lemma binary (level : Level) {op : BinaryOp} (hop : level.Sign t op)
    (hf : Refilled e b b' level.part n ts [f]) (hg : Refilled e b b' level.operandPart n us [g]) :
    Refilled e b b' level.part n (ts ++ t :: us) [.binary op f g] := by
  obtain ⟨f', hf', hsame⟩ := single_iff.mp hf
  obtain ⟨g', hg', hsame'⟩ := single_iff.mp hg
  rw [single_iff, flatMap_fill_around (isOperand_of_sign hop).1]
  exact ⟨_, hf'.more hop hg', hsame.binary hsame'⟩

lemma argument (hf : Refilled e b b' .expression n ts [f])
    (hgs : Refilled e b b' .arguments n us (g :: gs)) :
    Refilled e b b' .arguments n (ts ++ .comma :: us) (f :: g :: gs) := by
  obtain ⟨f', hf', hsame⟩ := single_iff.mp hf
  obtain ⟨fs', hfs', hsames⟩ := hgs
  obtain ⟨g', gs', _, _, rfl⟩ := List.forall₂_cons_left_iff.mp hsames
  rw [Refilled, flatMap_fill_around rfl]
  exact ⟨_, .argument hf' hfs', .cons hsame hsames⟩

/-- An operand that reads a name, which may be the one of the score. -/
lemma name {m m' : String} {u : Token} (h : Writable e) (hscore : b.get? e.name = some e.score)
    (hfill : fill e t = if m = e.name then scoreTokens e.score else [u])
    (hu : Derives .factor (n + 2) [u] [.name m']) (hother : m ≠ e.name → b.get? m = b'.get? m') :
    Refilled e b b' .factor (n + 1) [t] [.name m] := by
  rw [single_iff, List.flatMap_singleton, hfill]
  split_ifs with hm
  · exact h.derives_scoreTokens n (hm ▸ hscore)
  · exact ⟨_, hu, .name (hother hm)⟩

end Refilled

/-- **The tokens with a score written in are derived**, with trees of the same values. -/
theorem Derives.flatMap_fill (h : Writable e) {part : Part} {n : Nat} {ts : List Token}
    {fs : List Formula} (hderives : Derives part n ts fs) : Uncalled [e.name] ts →
    Binds e b b' ts → Refilled e b b' part n ts fs := by
  induction hderives with
  | ofTerm _ ih =>
      intro hcalls hbinds
      obtain ⟨f', hf', hsame⟩ := Refilled.single_iff.mp (ih hcalls hbinds)
      exact Refilled.single_iff.mpr ⟨f', .ofTerm hf', hsame⟩
  | ofFactor _ ih =>
      intro hcalls hbinds
      obtain ⟨f', hf', hsame⟩ := Refilled.single_iff.mp (ih hcalls hbinds)
      exact Refilled.single_iff.mpr ⟨f', .ofFactor hf', hsame⟩
  | sum _ hop _ ih ih' =>
      intro hcalls hbinds
      obtain ⟨hleft, hright⟩ := hbinds.of_append
      exact .binary .sum hop (ih hcalls.of_append.1 hleft)
        (ih' hcalls.of_append.2 hright)
  | product _ hop _ ih ih' =>
      intro hcalls hbinds
      obtain ⟨hleft, hright⟩ := hbinds.of_append
      exact .binary .product hop (ih hcalls.of_append.1 hleft)
        (ih' hcalls.of_append.2 hright)
  | plus _ ih =>
      intro hcalls hbinds
      obtain ⟨f', hf', hsame⟩ :=
        Refilled.single_iff.mp (ih hcalls.tail (hbinds.subset (List.subset_cons_self _ _)))
      exact Refilled.single_iff.mpr ⟨f', .plus hf', hsame⟩
  | minus _ ih =>
      intro hcalls hbinds
      obtain ⟨f', hf', hsame⟩ :=
        Refilled.single_iff.mp (ih hcalls.tail (hbinds.subset (List.subset_cons_self _ _)))
      exact Refilled.single_iff.mpr ⟨_, .minus hf', hsame.negate⟩
  | @parentheses n ts f _ ih =>
      intro hcalls hbinds
      obtain ⟨f', hf', hsame⟩ :=
        Refilled.single_iff.mp (ih hcalls.of_append.1.tail (hbinds.subset (by simp)))
      rw [Refilled.single_iff, flatMap_fill_around rfl]
      exact ⟨f', .parentheses hf', hsame⟩
  | number => exact fun _ _ => ⟨_, .number, .cons rfl .nil⟩
  | @name n m =>
      intro _ hbinds
      exact .name h hbinds.score rfl .name (hbinds.name m List.mem_cons_self)
  | @word n w =>
      intro _ hbinds
      exact .name h hbinds.score rfl .word (hbinds.word w List.mem_cons_self)
  | @call n text ts fs _ ih =>
      intro hcalls hbinds
      have hname : text ≠ e.name := by
        have hnext := List.IsChain.rel_head? hcalls rfl rfl text rfl
        simpa using hnext
      obtain ⟨fs', hfs', hsame⟩ := ih hcalls.of_append.1.tail.tail
        (hbinds.subset fun t ht => by simp [ht])
      rw [Refilled.single_iff, flatMap_fill_around rfl, List.flatMap_cons, fill, if_neg hname]
      exact ⟨_, .call hfs', .call hsame⟩
  | noArgument => exact fun _ _ => ⟨_, .noArgument, .nil⟩
  | lastArgument _ ih =>
      intro hcalls hbinds
      obtain ⟨f', hf', hsame⟩ := Refilled.single_iff.mp (ih hcalls hbinds)
      exact Refilled.single_iff.mpr ⟨f', .lastArgument hf', hsame⟩
  | argument _ _ ih ih' =>
      intro hcalls hbinds
      obtain ⟨hleft, hright⟩ := hbinds.of_append
      exact .argument (ih hcalls.of_append.1 hleft) (ih' hcalls.of_append.2 hright)

/-! ## Taking a binding away -/

/-- The words of a spelling are identifiers, and the other names stand in brackets. -/
lemma Renders.spelled {ts : List Token} {cs : List Char} (h : Renders ts cs) :
    (∀ w, .word w ∈ ts → IsIdentifier w.toList) ∧ ∀ n, .name n ∈ ts → IsBracketed n.toList := by
  induction h with
  | nil => simp
  | @cons t ts u v hspells _ _ ih =>
      obtain ⟨hwords, hnames⟩ := ih
      refine ⟨fun w hw => ?_, fun n hn => ?_⟩
      · rcases List.mem_cons.mp hw with rfl | hw
        · cases hspells with
          | sign ht => exact absurd (isOperand_of_ofSign? ht) (by simp [Token.isOperand])
          | word hu => simpa using hu
        · exact hwords w hw
      · rcases List.mem_cons.mp hn with rfl | hn
        · cases hspells with
          | sign ht => exact absurd (isOperand_of_ofSign? ht) (by simp [Token.isOperand])
          | bracket htext => simpa using htext
        · exact hnames n hn

lemma IsIdentifier.normalize_eq {name : String} (h : IsIdentifier name.toList) :
    normalize name = name :=
  normalize_eq_self.mpr fun c hc => (scan_isIdentifierChar (h.chars c hc)).1

lemma IsBracketed.normalize_eq {name : String} (h : IsBracketed name.toList) :
    normalize name = name :=
  normalize_eq_self.mpr h.plain

/-- The first binding is found under its name only. -/
lemma get?_cons_of_ne {es : List Binding} (he : IsIdentifier e.name.toList) {n : String}
    (hn : normalize n = n) (hne : n ≠ e.name) :
    (⟨e :: es⟩ : Bindings).get? n = (⟨es⟩ : Bindings).get? n := by
  have hsame : sameName e.name n = false := by
    rw [Bool.eq_false_iff, ne_eq, sameName_iff, he.normalize_eq, hn]
    exact fun heq => hne heq.symm
  simp [Bindings.get?, hsame]

/-- A name with a character that stands in no identifier is not bound to anything. -/
lemma get?_eq_none {es : List Binding} (hes : ∀ e ∈ es, IsIdentifier e.name.toList) {n : String}
    (hn : normalize n = n) {c : Char} (hc : c ∈ n.toList) (hnot : isIdentifierChar c = false) :
    (⟨es⟩ : Bindings).get? n = none := by
  rw [Bindings.get?, Option.map_eq_none_iff, List.find?_eq_none]
  intro e he hsame
  rw [sameName_iff, (hes e he).normalize_eq, hn] at hsame
  subst hsame
  rw [(hes e he).chars c hc] at hnot
  cases hnot

/-- Writing scores into a text keeps the characters that stand in no identifier. -/
lemma mem_replaceWord {name new u : List Char} (h : IsIdentifier name) {c : Char} (hc : c ∈ u)
    (hnot : isIdentifierChar c = false) (hword : isWordChar c = false) :
    c ∈ replaceWord name new u := by
  obtain ⟨x, y, rfl⟩ := List.append_of_mem hc
  rw [replaceWord_append h x (by simpa [EndsWord] using ⟨hnot, hword⟩),
    replaceWord_cons h y hnot hword]
  simp

/-- **Taking the first binding away.**  A word keeps its score unless it is the name of the binding.
What stands in other brackets is either a word too, or contains a character that stands in no
identifier, now and after the score is written in. -/
lemma Renders.binds {ts : List Token} {cs : List Char} {es : List Binding} (h : Renders ts cs)
    (he : Writable e) (hes : ∀ e ∈ es, IsIdentifier e.name.toList) :
    Binds e ⟨e :: es⟩ ⟨es⟩ ts where
  score := by simp [Bindings.get?, sameName]
  word w hw hne := get?_cons_of_ne he.name (h.spelled.1 w hw).normalize_eq hne
  name n hn hne := by
    have htext := h.spelled.2 n hn
    by_cases hall : ∀ c ∈ n.toList, isIdentifierChar c = true
    · have hname : n.toList ≠ e.name.toList := fun heq => hne (String.toList_inj.mp heq)
      rw [replaceWord_word he.name hall, if_neg hname, String.ofList_toList]
      exact get?_cons_of_ne he.name htext.normalize_eq hne
    · push Not at hall
      obtain ⟨c, hc, hnot⟩ := hall
      rw [ne_eq, Bool.not_eq_true] at hnot
      have hword : isWordChar c = false := by rw [isWordChar_eq (htext.ascii c hc), hnot]
      have hnew := he.isBracketed htext
      have hmem : c ∈ replaceWord e.name.toList (printScore e.score).toList n.toList :=
        mem_replaceWord he.name hc hnot hword
      rw [← String.toList_ofList (l := replaceWord _ _ _)] at hnew hmem
      rw [get?_eq_none (List.forall_mem_cons.mpr ⟨he.name, hes⟩) htext.normalize_eq hc hnot,
        get?_eq_none hes hnew.normalize_eq hmem hnot]

/-! ## Writing in all scores -/

/-- **Writing in one score after the other** gives tokens that are derived, and a tree whose value
without bindings is the value of the old tree with all of them. -/
theorem exists_derives_foldl : ∀ {es : List Binding} {ts : List Token} {cs : List Char} {n : Nat}
    {f : Formula}, (∀ e ∈ es, Writable e) → Renders ts cs → Derives .expression n ts [f] →
      Uncalled (es.map (·.name)) ts → ∃ m g,
        Derives .expression m (tokensOf (lexemes [] (es.foldl substituteOne cs))) [g] ∧
          SameValue ⟨es⟩ .empty f g
  | [], ts, cs, n, f, _, hrenders, hderives, _ =>
      ⟨n, f, by rwa [List.foldl_nil, hrenders.tokens_eq], rfl⟩
  | e :: es, ts, cs, n, f, hes, hrenders, hderives, hcalls => by
      obtain ⟨he, hes⟩ := List.forall_mem_cons.mp hes
      have hself : Uncalled [e.name] ts := hcalls.imp fun t u h heq w hw hmem =>
        h heq w hw (List.mem_cons.mpr (Or.inl (List.mem_singleton.mp hmem)))
      have hothers : Uncalled (es.map (·.name)) ts := hcalls.imp fun t u h heq w hw hmem =>
        h heq w hw (List.mem_cons_of_mem _ hmem)
      obtain ⟨f', hf', hsame⟩ := Refilled.single_iff.mp (hderives.flatMap_fill he hself
        (hrenders.binds he fun e' he' => (hes e' he').name))
      obtain ⟨m, g, hg, hvalue⟩ := exists_derives_foldl hes (hrenders.substituteOne he) hf'
        (hothers.flatMap_fill he)
      exact ⟨m, g, hg, hsame.trans hvalue⟩

end Markbook
