import Markbook.Proofs.Formula.Trace
import Markbook.Proofs.Name
import Markbook.Proofs.Ordered

/-!
# The names in a tree

A tree reads the names that stand in the text, in brackets or bare, and no others.  All of them are
plain: a formula loses its white space before it is read, and what stands in brackets is normalized.
So an item can be looked up under a name as the tree has it.

* `Token.Plain`, `plain_of_mem_lexemes` — the tokens of a text without white space hold plain names.
* `punctuatedNames_congr` — which names the scanner knows, and in which order.
* `Trace.occurrences` — the names in the trees of a run are those of its tokens.
* `normalize_of_mem_references` — what a formula reads is plain.
-/

namespace Markbook

/-! ## Tokens -/

def Token.name? : Token → Option String
  | .name n => some n
  | .word text => some text
  | _ => none

/-- Is the name that the token stands for plain? -/
def Token.Plain (t : Token) : Prop :=
  ∀ n ∈ t.name?, normalize n = n

lemma Token.plain_of_name?_eq_none {t : Token} (h : t.name? = none) : t.Plain := by
  simp [Token.Plain, h]

lemma Token.name?_ofSign? {c : Char} {t : Token} (h : Token.ofSign? c = some t) :
    t.name? = none := by
  unfold Token.ofSign? at h
  split at h <;> cases h <;> rfl

lemma Token.plain_bracketed (cs : List Char) : (Token.bracketed cs).1.Plain := by
  rw [Token.bracketed]
  split_ifs
  · exact plain_of_name?_eq_none rfl
  · simp [Token.Plain, Token.name?]

section

variable {c : Char} {cs : List Char}

lemma Token.plain_wordFrom (h : ∀ d ∈ c :: cs, isBlank d = false) :
    (Token.wordFrom c cs).1.Plain := by
  have hplain : normalize (String.ofList (c :: cs.takeWhile isNameChar)) =
      String.ofList (c :: cs.takeWhile isNameChar) := by
    refine normalize_eq_self.mpr fun d hd => h d ?_
    rw [String.toList_ofList] at hd
    rcases List.mem_cons.mp hd with rfl | hd
    · exact List.mem_cons_self
    · exact List.mem_cons_of_mem _ ((List.takeWhile_prefix _).subset hd)
  simpa [Token.wordFrom, Token.Plain, Token.name?] using hplain

lemma Token.plain_numberFrom (h : ∀ d ∈ c :: cs, isBlank d = false) :
    (Token.numberFrom c cs).1.Plain := by
  simp only [Token.numberFrom]
  split_ifs
  · exact plain_wordFrom h
  · cases readNumeral? (c :: cs.takeWhile isNumberChar) <;> exact plain_of_name?_eq_none rfl

lemma Token.plain_plainNext (h : ∀ d ∈ c :: cs, isBlank d = false) :
    (Token.plainNext c cs).1.Plain := by
  rw [Token.plainNext]
  cases hsign : Token.ofSign? c with
  | some t => exact plain_of_name?_eq_none (name?_ofSign? hsign)
  | none =>
      simp only
      split_ifs
      · exact plain_bracketed cs
      · exact plain_numberFrom h
      · exact plain_wordFrom h
      · exact plain_of_name?_eq_none rfl

/-- A token holds a plain name if the text has no white space and the known names are plain. -/
lemma Token.plain_next {names : List String} (hnames : ∀ n ∈ names, normalize n = n)
    (h : ∀ d ∈ c :: cs, isBlank d = false) (before : Option Char) :
    (Token.next names before c cs).1.Plain := by
  rw [Token.next]
  split
  · next n hfind =>
      have hmem : n ∈ names := by
        split_ifs at hfind
        exact List.mem_of_find?_eq_some hfind
      simpa [Token.Plain, Token.name?] using hnames n hmem
  · exact plain_plainNext h

end

/-- Every token of a text is cut off somewhere in it. -/
lemma next_of_mem_lexemes {names : List String} {l : Lexeme} : ∀ (cs : List Char) (within : Nat)
    (before : Option Char) (offset : Nat), l ∈ lexemesFrom names within before offset cs →
      ∃ before' c rest, c :: rest <:+ cs ∧ l.token = (Token.next names before' c rest).1
  | [], _, _, _, hl => by simp [lexemesFrom] at hl
  | c :: cs, within + 1, before, offset, hl => by
      rw [lexemesFrom] at hl
      obtain ⟨before', d, rest, hrest, htoken⟩ := next_of_mem_lexemes cs _ _ _ hl
      exact ⟨before', d, rest, hrest.trans (List.suffix_cons _ _), htoken⟩
  | c :: cs, 0, before, offset, hl => by
      have hbehind : ∀ {within : Nat},
          l ∈ lexemesFrom names within (some c) (offset + c.utf8Size) cs →
            ∃ before' d rest, d :: rest <:+ c :: cs ∧
              l.token = (Token.next names before' d rest).1 := by
        intro within hl
        obtain ⟨before', d, rest, hrest, htoken⟩ := next_of_mem_lexemes cs _ _ _ hl
        exact ⟨before', d, rest, hrest.trans (List.suffix_cons _ _), htoken⟩
      rw [lexemesFrom] at hl
      split_ifs at hl
      · exact hbehind hl
      · rcases List.mem_cons.mp hl with rfl | hl
        · exact ⟨before, c, cs, List.suffix_refl _, rfl⟩
        · exact hbehind hl

/-- **The tokens of a text without white space hold plain names.** -/
lemma plain_of_mem_lexemes {names : List String} (hnames : ∀ n ∈ names, normalize n = n)
    {cs : List Char} (h : ∀ c ∈ cs, isBlank c = false) :
    ∀ l ∈ lexemes names cs, l.token.Plain := by
  intro l hl
  obtain ⟨before, c, rest, hrest, htoken⟩ := next_of_mem_lexemes cs _ _ _ hl
  rw [htoken]
  exact Token.plain_next hnames (fun d hd => h d (hrest.subset hd)) before

/-! ## Names known to the scanner -/

/-- The names of a table go in one order, the longer ones first. -/
lemma longerFirst_strictTotal : StrictTotal longerFirst where
  irrefl x := by simp [longerFirst, textBefore_strictTotal.irrefl]
  trans {x y z} hxy hyz := by
    simp only [longerFirst, Bool.or_eq_true, Bool.and_eq_true, decide_eq_true_eq,
      beq_iff_eq] at hxy hyz ⊢
    rcases hxy with hxy | ⟨hxy, hbefore⟩
    · rcases hyz with hyz | ⟨hyz, _⟩ <;> exact Or.inl (by omega)
    · rcases hyz with hyz | ⟨hyz, hbefore'⟩
      · exact Or.inl (by omega)
      · exact Or.inr ⟨hxy.trans hyz, textBefore_strictTotal.trans hbefore hbefore'⟩
  total {x y} hne hxy := by
    simp only [longerFirst, Bool.or_eq_false_iff, Bool.and_eq_false_iff, decide_eq_false_iff_not,
      beq_eq_false_iff_ne, Bool.or_eq_true, Bool.and_eq_true, decide_eq_true_eq, beq_iff_eq,
      Nat.not_lt] at hxy ⊢
    obtain ⟨hle, hlength | hbefore⟩ := hxy
    · exact Or.inl (Nat.lt_of_le_of_ne hle hlength)
    · rcases Nat.lt_or_eq_of_le hle with hlt | heq
      · exact Or.inl hlt
      · exact Or.inr ⟨heq.symm, textBefore_strictTotal.total hne hbefore⟩

lemma normalize_of_mem_punctuatedNames {names : List String} {n : String}
    (h : n ∈ punctuatedNames names) : normalize n = n := by
  rw [punctuatedNames, mem_orderedSet] at h
  obtain ⟨m, _, rfl⟩ := List.mem_map.mp (List.mem_of_mem_filter h)
  exact normalize_normalize m

/-- **The names known to the scanner are a matter of the plain names in use**, not of their order or
of how often they are given. -/
theorem punctuatedNames_congr {names names' : List String}
    (h : ∀ n, n ∈ names.map normalize ↔ n ∈ names'.map normalize) :
    punctuatedNames names = punctuatedNames names' :=
  orderedSet_congr longerFirst_strictTotal fun n => by rw [List.mem_filter, List.mem_filter, h]

/-! ## Runs -/

/-- The names in the value that a phase goes on from. -/
def Phase.occurrences : Phase → List String
  | behind _ left => left.occurrences
  | _ => []

@[simp] lemma Phase.occurrences_behind (level : Level) (left : Formula) :
    (Phase.behind level left).occurrences = left.occurrences := rfl

@[simp] lemma Phase.occurrences_operand (level : Level) : level.operand.occurrences = [] := by
  cases level <;> rfl

@[simp] lemma occurrencesAll_singleton (f : Formula) :
    Formula.occurrencesAll [f] = f.occurrences := by
  simp [Formula.occurrencesAll]

/-- The name `m` is one of the tokens. -/
def Named (m : String) (ls : List Lexeme) : Prop :=
  ∃ l ∈ ls, l.token.name? = some m

lemma Named.mono {m : String} {ls ms : List Lexeme} (h : Named m ms) (hsub : ms ⊆ ls) :
    Named m ls := by
  obtain ⟨l, hl, hname⟩ := h
  exact ⟨l, hsub hl, hname⟩

lemma Named.cons {m : String} {ls : List Lexeme} (h : Named m ls) (l : Lexeme) :
    Named m (l :: ls) :=
  h.mono (List.subset_cons_self l ls)

/-- **The names in the trees of a run are those of its tokens.**  A run takes its tokens from the
front, so what follows a part of it are tokens of the whole. -/
lemma Trace.occurrences {mode : Mode} {phase : Phase} {n : Nat} {ls ns : List Lexeme}
    {fs : List Formula} (h : Trace mode phase n ls fs ns) :
    ∀ m ∈ Formula.occurrencesAll fs, m ∈ phase.occurrences ∨ Named m ls := by
  induction h with
  | chain hfirst _ ih ih' =>
      rw [Phase.occurrences_operand] at ih
      intro m hm
      rcases ih' m hm with hm | hnamed
      · exact ih m (by simpa using hm)
      · exact Or.inr (hnamed.mono hfirst.suffix.subset)
  | operator _ hright _ ih ih' =>
      rw [Phase.occurrences_operand] at ih
      intro m hm
      rcases ih' m hm with hm | hnamed
      · rcases List.mem_append.mp hm with hm | hm
        · exact Or.inl hm
        · have hnamed := (ih m (by simpa using hm)).resolve_left List.not_mem_nil
          exact Or.inr (hnamed.cons _)
      · exact Or.inr ((hnamed.mono hright.suffix.subset).cons _)
  | chainEnd _ => exact fun m hm => Or.inl (by simpa using hm)
  | plus _ _ ih =>
      exact fun m hm => Or.inr (((ih m hm).resolve_left List.not_mem_nil).cons _)
  | minus _ _ ih =>
      intro m hm
      have hnamed := (ih m (by simpa [Formula.occurrences] using hm)).resolve_left List.not_mem_nil
      exact Or.inr (hnamed.cons _)
  | parentheses _ _ _ ih =>
      exact fun m hm => Or.inr (((ih m hm).resolve_left List.not_mem_nil).cons _)
  | number _ => simp [Formula.occurrences]
  | name hl =>
      intro m hm
      exact Or.inr ⟨_, List.mem_cons_self, by simp_all [Formula.occurrences, Token.name?]⟩
  | word hl _ =>
      intro m hm
      exact Or.inr ⟨_, List.mem_cons_self, by simp_all [Formula.occurrences, Token.name?]⟩
  | call _ _ _ _ ih =>
      intro m hm
      have hnamed := (ih m (by simpa [Formula.occurrences] using hm)).resolve_left List.not_mem_nil
      exact Or.inr ((hnamed.cons _).cons _)
  | missing _ _ => simp [Formula.occurrences]
  | noArguments _ => simp [Formula.occurrencesAll]
  | arguments _ hfirst _ ih ih' =>
      intro m hm
      rcases List.mem_append.mp hm with hm | hm
      · exact ih m (by simpa using hm)
      · have hnamed := (ih' m hm).resolve_left List.not_mem_nil
        exact Or.inr (hnamed.mono hfirst.suffix.subset)
  | moreArguments _ hfirst _ ih ih' =>
      intro m hm
      rcases List.mem_append.mp hm with hm | hm
      · exact Or.inr (((ih m (by simpa using hm)).resolve_left List.not_mem_nil).cons _)
      · have hnamed := (ih' m hm).resolve_left List.not_mem_nil
        exact Or.inr ((hnamed.mono hfirst.suffix.subset).cons _)
  | argumentsEnd _ => simp [Formula.occurrencesAll]

/-! ## Formulas -/

namespace Formula

lemma mem_references {f : Formula} {n : String} : n ∈ f.references ↔ n ∈ f.occurrences := by
  rw [references, List.mem_eraseDups]

lemma run_of_parseWith {mode : Mode} {names : List String} {text : String} {f : Formula}
    (h : parseWith mode names text = .ok f) :
    ∃ c, Parser.formula mode text.utf8ByteSize ⟨lexemes names text.toList, 0⟩ = .ok (f, c) := by
  rw [parseWith] at h
  cases hrun : Parser.formula mode text.utf8ByteSize ⟨lexemes names text.toList, 0⟩ with
  | error cause => simp only [hrun, reduceCtorEq] at h
  | ok r =>
      obtain ⟨g, c⟩ := r
      simp only [hrun] at h
      split at h <;> cases h
      exact ⟨c, rfl⟩

/-- What a formula reads stands for a token of its text. -/
lemma exists_token_of_mem_references {mode : Mode} {names : List String} {text n : String}
    {f : Formula} (hread : read mode names text = .ok f) (hn : n ∈ f.references) :
    ∃ l ∈ lexemes (punctuatedNames names) (normalize text).toList, l.token.name? = some n := by
  obtain ⟨c, hrun⟩ := run_of_parseWith hread
  have htrace := (Parser.sound_expression (Parser.sound_factor maxNesting) _ _ _ hrun).trace
  exact (htrace.occurrences n (by simpa using mem_references.mp hn)).resolve_left List.not_mem_nil

lemma forall_isBlank_normalize (text : String) : ∀ c ∈ (normalize text).toList, isBlank c = false :=
  normalize_eq_self.mp (normalize_normalize text)

/-- **What a formula reads is plain**, whatever the scanner knows and however the formula is
typed. -/
theorem normalize_of_mem_references {mode : Mode} {names : List String} {text n : String}
    {f : Formula} (hread : read mode names text = .ok f) (hn : n ∈ f.references) :
    normalize n = n := by
  obtain ⟨l, hl, hname⟩ := exists_token_of_mem_references hread hn
  exact plain_of_mem_lexemes (fun _ => normalize_of_mem_punctuatedNames)
    (forall_isBlank_normalize text) l hl n hname

end Formula

end Markbook
