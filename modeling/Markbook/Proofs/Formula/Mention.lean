import Mathlib.Data.List.Find
import Mathlib.Data.List.Infix
import Markbook.Proofs.Formula.Names

/-!
# The names that a text mentions

A formula can only read what stands in its text, and a name that the scanner knows only matters
where it stands in the text.  So two tables of names are as good as each other for a formula if they
differ in nothing but names that its text does not mention, however they are ordered.

* `Mentions` — does a name stand somewhere in a text?
* `lexemes_filter` — the scanner can do without the names that do not stand in a text.
* `read_congr` — **a tree depends on the names that the text mentions only**.
* `mentions_of_mem_references` — **a tree reads only what the text mentions**.
-/

namespace Markbook

/-- Does the name stand somewhere in the text, both without their white space? -/
def Mentions (text name : String) : Prop :=
  (normalize name).toList <:+: (normalize text).toList

instance (text name : String) : Decidable (Mentions text name) :=
  inferInstanceAs (Decidable (_ <:+: _))

/-! ## Names known to the scanner -/

lemma prefix_of_standsAt {before : Option Char} {cs : List Char} {n : String}
    (h : standsAt before cs n = true) : n.toList <+: cs := by
  simp only [standsAt, Bool.and_eq_true] at h
  exact List.isPrefixOf_iff_prefix.mp h.1.1

section

variable {names : List String} {keep : String → Bool}

lemma Token.next_filter {before : Option Char} {c : Char} {cs : List Char}
    (h : ∀ n ∈ names, n.toList <+: c :: cs → keep n = true) :
    Token.next (names.filter keep) before c cs = Token.next names before c cs := by
  have hfind : (names.filter keep).find? (standsAt before (c :: cs)) =
      names.find? (standsAt before (c :: cs)) := by
    rw [List.find?_filter]
    refine List.find?_congr fun n hn => ?_
    have hkeep : standsAt before (c :: cs) n = true → keep n = true :=
      fun hstands => h n hn (prefix_of_standsAt hstands)
    simpa using hkeep
  rw [Token.next, Token.next, hfind]

lemma lexemesFrom_filter : ∀ (cs : List Char) (within : Nat) (before : Option Char) (offset : Nat),
    (∀ n ∈ names, n.toList <:+: cs → keep n = true) →
      lexemesFrom (names.filter keep) within before offset cs =
        lexemesFrom names within before offset cs
  | [], _, _, _, _ => by simp [lexemesFrom]
  | c :: cs, within, before, offset, h => by
      have hrest : ∀ n ∈ names, n.toList <:+: cs → keep n = true :=
        fun n hn hinside => h n hn (hinside.trans (List.suffix_cons c cs).isInfix)
      have hnext : Token.next (names.filter keep) before c cs = Token.next names before c cs :=
        Token.next_filter fun n hn hstart => h n hn hstart.isInfix
      cases within with
      | zero =>
          simp only [lexemesFrom, hnext, lexemesFrom_filter cs _ _ _ hrest]
      | succ within =>
          rw [lexemesFrom, lexemesFrom, lexemesFrom_filter cs within _ _ hrest]

/-- **The scanner can do without the names that do not stand in a text.** -/
lemma lexemes_filter {cs : List Char} (h : ∀ n ∈ names, n.toList <:+: cs → keep n = true) :
    lexemes (names.filter keep) cs = lexemes names cs :=
  lexemesFrom_filter cs 0 none 0 h

end

/-! ## What a token stands for -/

section

variable {c : Char} {cs : List Char} {n : String}

lemma Token.infix_bracketed (h : ∀ d ∈ cs, isBlank d = false)
    (hn : (Token.bracketed cs).1.name? = some n) : n.toList <:+: cs := by
  have hstart : cs.takeWhile (· != ']') <+: cs := List.takeWhile_prefix _
  rw [Token.bracketed] at hn
  split_ifs at hn
  · cases hn
  · obtain rfl := Option.some.inj hn
    have hplain : normalize (String.ofList (cs.takeWhile (· != ']'))) =
        String.ofList (cs.takeWhile (· != ']')) :=
      normalize_eq_self.mpr fun d hd => h d (hstart.subset (by rwa [String.toList_ofList] at hd))
    rw [hplain, String.toList_ofList]
    exact hstart.isInfix

lemma Token.prefix_wordFrom (hn : (Token.wordFrom c cs).1.name? = some n) :
    n.toList <+: c :: cs := by
  obtain rfl := Option.some.inj hn
  rw [String.toList_ofList]
  exact (List.prefix_cons_inj c).mpr (List.takeWhile_prefix _)

lemma Token.prefix_numberFrom (hn : (Token.numberFrom c cs).1.name? = some n) :
    n.toList <+: c :: cs := by
  simp only [Token.numberFrom] at hn
  split_ifs at hn
  · exact prefix_wordFrom hn
  · cases hnumeral : readNumeral? (c :: cs.takeWhile isNumberChar) <;>
      rw [hnumeral] at hn <;> cases hn

lemma Token.infix_plainNext (h : ∀ d ∈ c :: cs, isBlank d = false)
    (hn : (Token.plainNext c cs).1.name? = some n) : n.toList <:+: c :: cs := by
  rw [Token.plainNext] at hn
  cases hsign : Token.ofSign? c with
  | some t =>
      rw [hsign, name?_ofSign? hsign] at hn
      cases hn
  | none =>
      simp only [hsign] at hn
      split_ifs at hn
      · exact (infix_bracketed (fun d hd => h d (List.mem_cons_of_mem c hd)) hn).trans
          (List.suffix_cons c cs).isInfix
      · exact (prefix_numberFrom hn).isInfix
      · exact (prefix_wordFrom hn).isInfix
      · cases hn

/-- The name that a token stands for is where the token is. -/
lemma Token.infix_next {names : List String} {before : Option Char}
    (h : ∀ d ∈ c :: cs, isBlank d = false)
    (hn : (Token.next names before c cs).1.name? = some n) : n.toList <:+: c :: cs := by
  rw [Token.next] at hn
  split at hn
  · next m hfind =>
      obtain rfl := Option.some.inj hn
      split_ifs at hfind
      exact (prefix_of_standsAt (List.find?_some hfind)).isInfix
  · exact infix_plainNext h hn

end

/-! ## Formulas -/

namespace Formula

variable {mode : Mode} {names names' : List String} {text : String}

lemma parseWith_congr (h : lexemes names text.toList = lexemes names' text.toList) :
    parseWith mode names text = parseWith mode names' text := by
  simp only [parseWith, h]

/-- **A tree depends on the names that the text mentions only.** -/
theorem read_congr
    (h : ∀ n, Mentions text n → (n ∈ names.map normalize ↔ n ∈ names'.map normalize)) :
    read mode names text = read mode names' text := by
  have hkeep : ∀ names : List String, lexemes ((punctuatedNames names).filter (Mentions text ·))
      (normalize text).toList = lexemes (punctuatedNames names) (normalize text).toList :=
    fun names => lexemes_filter fun n hn hinside => by
      rwa [decide_eq_true_eq, Mentions, normalize_of_mem_punctuatedNames hn]
  have hsame : (punctuatedNames names).filter (Mentions text ·) =
      (punctuatedNames names').filter (Mentions text ·) := by
    rw [punctuatedNames, punctuatedNames, filter_orderedSet longerFirst_strictTotal,
      filter_orderedSet longerFirst_strictTotal]
    refine orderedSet_congr longerFirst_strictTotal fun n => ?_
    simp only [List.mem_filter, decide_eq_true_eq]
    exact and_congr_left fun hmentions => and_congr_left fun _ => h n hmentions
  exact parseWith_congr (by rw [← hkeep names, hsame, hkeep names'])

/-- **A tree reads only what the text mentions.** -/
theorem mentions_of_mem_references {n : String} {f : Formula}
    (hread : read mode names text = .ok f) (hn : n ∈ f.references) : Mentions text n := by
  obtain ⟨l, hl, hname⟩ := exists_token_of_mem_references hread hn
  obtain ⟨before, c, rest, hsuffix, htoken⟩ := next_of_mem_lexemes _ _ _ _ hl
  rw [htoken] at hname
  have hinside : n.toList <:+: c :: rest :=
    Token.infix_next (fun d hd => forall_isBlank_normalize text d (hsuffix.subset hd)) hname
  rw [Mentions, normalize_of_mem_references hread hn]
  exact hinside.trans hsuffix.isInfix

end Formula

end Markbook
