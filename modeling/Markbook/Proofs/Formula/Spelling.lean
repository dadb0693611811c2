import Mathlib.Data.List.Chain
import Markbook.Proofs.Formula.Cutting

/-!
# How tokens are spelled

Where the scanner knows no names, a text is the spelling of its tokens one after the other: cutting
a text and spelling tokens undo each other.  Two things keep them from doing so in general.  Invalid
tokens are not spelled at all here, and operands have to be apart from each other, as the digits of
two numbers in a row would be cut as one number.  A text that follows the grammar meets both.

Everything is about ASCII texts, where a character of a name and a character of a word are the same
thing.

* `IsIdentifier` — names that are a single word to everyone.
* `Spells`, `Renders` — the spelling of a token and of several.
* `Renders.tokens_eq` — cutting a spelling gives the tokens back.
* `renders_of_derives` — the text of a formula is a spelling of its tokens.
-/

namespace Markbook

/-! ## Spellings -/

/-- A name that is a single word: letters, digits and underscores, and not digits alone. -/
structure IsIdentifier (name : List Char) : Prop where
  chars : ∀ c ∈ name, isIdentifierChar c = true
  nonDigit : ∃ c ∈ name, c.isDigit = false

instance (name : List Char) : Decidable (IsIdentifier name) :=
  decidable_of_iff (name.all isIdentifierChar = true ∧ name.any (!·.isDigit) = true)
    ⟨fun h => ⟨by simpa using h.1, by simpa using h.2⟩,
      fun h => ⟨by simpa using h.chars, by simpa using h.nonDigit⟩⟩

/-- What may stand between brackets. -/
structure IsBracketed (text : List Char) : Prop where
  ascii : ∀ c ∈ text, c.toNat < 128
  plain : ∀ c ∈ text, isBlank c = false
  opening : '[' ∉ text
  closing : ']' ∉ text

/-- The spellings of a token. -/
inductive Spells : Token → List Char → Prop
  | sign {c t} : Token.ofSign? c = some t → Spells t [c]
  | word {w} : IsIdentifier w → Spells (.word (String.ofList w)) w
  | number {ds n} : (∀ c ∈ ds, isNumberChar c = true) → readNumeral? ds = some n →
      Spells (.number n.toDecimal.toFloat) ds
  | bracket {text} : IsBracketed text → Spells (.name (String.ofList text)) ('[' :: text ++ [']'])

/-- The spellings of several tokens, no two operands being next to each other. -/
inductive Renders : List Token → List Char → Prop
  | nil : Renders [] []
  | cons {t ts u v} : Spells t u → (t.isOperand = true → ∀ t' ∈ ts.head?, t'.isOperand = false) →
      Renders ts v → Renders (t :: ts) (u ++ v)

/-- Behind an operand the text ends or goes on with a sign. -/
lemma Renders.starts_with_sign {ts : List Token} {v : List Char} (h : Renders ts v)
    (hts : ∀ t ∈ ts.head?, t.isOperand = false) :
    v = [] ∨ ∃ c t w, v = c :: w ∧ Token.ofSign? c = some t := by
  cases h with
  | nil => exact Or.inl rfl
  | cons hspells _ _ =>
      cases hspells with
      | sign ht => exact Or.inr ⟨_, _, _, rfl, ht⟩
      | word _ => exact absurd (hts _ rfl) (by simp [Token.isOperand])
      | number _ _ => exact absurd (hts _ rfl) (by simp [Token.isOperand])
      | bracket _ => exact absurd (hts _ rfl) (by simp [Token.isOperand])

lemma Renders.endsOperand {ts : List Token} {v : List Char} (h : Renders ts v)
    (hts : ∀ t ∈ ts.head?, t.isOperand = false) : EndsOperand v := by
  rcases h.starts_with_sign hts with rfl | ⟨c, t, w, rfl, ht⟩
  · simp [EndsOperand]
  · simpa [EndsOperand] using ⟨t, ht⟩

lemma Spells.written {t : Token} {u : List Char} (h : Spells t u) : Written t u := by
  cases h with
  | sign ht => exact .sign ht
  | word hw =>
      exact .word ⟨fun c hc => isNameChar_of_isIdentifierChar (hw.chars c hc), hw.nonDigit⟩
  | number hds hn => exact .number hds hn
  | bracket htext => exact .bracket htext.plain htext.closing

/-- In ASCII a token is spelled as it can be written. -/
lemma Written.spells {t : Token} {u : List Char} (h : Written t u)
    (hascii : ∀ c ∈ u, c.toNat < 128) (hopen : ∀ n, t = .name n → '[' ∉ n.toList) :
    Spells t u := by
  cases h with
  | sign ht => exact .sign ht
  | word hw =>
      exact .word ⟨fun c hc => (isNameChar_eq (hascii c hc)).symm.trans (hw.chars c hc),
        hw.nonDigit⟩
  | number hds hn => exact .number hds hn
  | bracket hplain hclosing =>
      have hopening := hopen _ rfl
      rw [String.toList_ofList] at hopening
      exact .bracket ⟨fun c hc => hascii c (by simp [hc]), hplain, hopening, hclosing⟩

/-- **Cutting a spelling gives the tokens back.** -/
theorem Renders.tokens_eq {ts : List Token} {cs : List Char} (h : Renders ts cs) :
    tokensOf (lexemes [] cs) = ts := by
  induction h with
  | nil => rfl
  | cons hspells hapart hrest ih =>
      rw [hspells.written.tokensOf_append fun hoperand => hrest.endsOperand (hapart hoperand), ih]

/-! ## Spelling -/

/-- The text in front of a cut is a spelling of the token that is cut off. -/
lemma spells_plainNext {c : Char} {cs : List Char} (hascii : ∀ d ∈ c :: cs, d.toNat < 128)
    (hplain : ∀ d ∈ cs, isBlank d = false)
    (hvalid : ∀ text, (Token.plainNext c cs).1 ≠ .invalid text)
    (hopen : ∀ n, (Token.plainNext c cs).1 = .name n → '[' ∉ n.toList) :
    Spells (Token.plainNext c cs).1 (c :: cs.take (Token.plainNext c cs).2) := by
  refine (written_plainNext hplain hvalid).spells (fun d hd => hascii d ?_) hopen
  rcases List.mem_cons.mp hd with rfl | hd
  · exact List.mem_cons_self
  · exact List.mem_cons_of_mem c (List.mem_of_mem_take hd)

/-- No token is invalid and no two operands are next to each other. -/
structure Apart (ts : List Token) : Prop where
  valid : ∀ text, .invalid text ∉ ts
  chain : ts.IsChain fun t u => t.isOperand = true → u.isOperand = false

/-- **A text is the spelling of its tokens.**  The induction is on the length of the text; every
token takes at least one character. -/
theorem renders_tokensOf : ∀ (length : Nat) (cs : List Char), cs.length ≤ length →
    (∀ c ∈ cs, c.toNat < 128) → (∀ c ∈ cs, isBlank c = false) →
    (∀ n, .name n ∈ tokensOf (lexemes [] cs) → '[' ∉ n.toList) →
    Apart (tokensOf (lexemes [] cs)) → Renders (tokensOf (lexemes [] cs)) cs
  | _, [], _, _, _, _, _ => .nil
  | length + 1, c :: cs, hlength, hascii, hplain, hopen, h => by
      rw [tokensOf_lexemes_cons (hplain c List.mem_cons_self)] at hopen h ⊢
      have hspells := spells_plainNext hascii fun d hd => hplain d (List.mem_cons_of_mem c hd)
      generalize Token.plainNext c cs = cut at hopen h hspells ⊢
      have hdrop : ∀ d ∈ cs.drop cut.2, d ∈ c :: cs :=
        fun d hd => List.mem_cons_of_mem c (List.mem_of_mem_drop hd)
      have hrest := renders_tokensOf length (cs.drop cut.2)
        (by simp only [List.length_cons, List.length_drop] at hlength ⊢; omega)
        (fun d hd => hascii d (hdrop d hd)) (fun d hd => hplain d (hdrop d hd))
        (fun n hmem => hopen n (List.mem_cons_of_mem _ hmem))
        ⟨fun text hmem => h.valid text (List.mem_cons_of_mem _ hmem), h.chain.tail⟩
      have hfirst := hspells
        (fun text heq => h.valid text (heq ▸ List.mem_cons_self))
        (fun n heq => hopen n (heq ▸ List.mem_cons_self))
      have htext : c :: cs = (c :: cs.take cut.2) ++ cs.drop cut.2 := by
        rw [List.cons_append, List.take_append_drop]
      rw [htext]
      refine .cons hfirst (fun hoperand t' ht' => ?_) hrest
      exact h.chain.rel_head? ht' hoperand

/-! ## Formulas -/

/-- A token that is neither invalid nor an operand keeps the tokens around it apart. -/
lemma Apart.around {ts us : List Token} {t : Token} (hts : Apart ts) (hus : Apart us)
    (hvalid : ∀ text, t ≠ .invalid text) (ht : t.isOperand = false) : Apart (ts ++ t :: us) := by
  refine ⟨fun text hmem => ?_, List.isChain_append.mpr ⟨hts.chain, ?_, fun x _ y hy _ => ?_⟩⟩
  · rcases List.mem_append.mp hmem with hmem | hmem
    · exact hts.valid text hmem
    · rcases List.mem_cons.mp hmem with heq | hmem
      · exact hvalid text heq.symm
      · exact hus.valid text hmem
  · exact List.isChain_cons.mpr ⟨fun y _ hoperand => by simp [ht] at hoperand, hus.chain⟩
  · obtain rfl : t = y := by simpa using hy
    exact ht

lemma apart_nil : Apart [] :=
  ⟨by simp, .nil⟩

lemma apart_singleton {t : Token} (h : ∀ text, t ≠ .invalid text) : Apart [t] :=
  ⟨fun text hmem => h text (List.mem_singleton.mp hmem).symm, .singleton t⟩

lemma isOperand_of_sign {level : Level} {t : Token} {op : BinaryOp} (h : level.Sign t op) :
    t.isOperand = false ∧ ∀ text, t ≠ .invalid text := by
  cases h <;> simp [Token.isOperand]

/-- The grammar puts a sign between any two operands. -/
lemma Derives.apart {part : Part} {n : Nat} {ts : List Token} {fs : List Formula}
    (h : Derives part n ts fs) : Apart ts := by
  induction h with
  | ofTerm _ ih => exact ih
  | ofFactor _ ih => exact ih
  | sum _ hop _ ih ih' | product _ hop _ ih ih' =>
      obtain ⟨hoperand, hvalid⟩ := isOperand_of_sign hop
      exact ih.around ih' hvalid hoperand
  | plus _ ih => exact apart_nil.around ih (by simp) rfl
  | minus _ ih => exact apart_nil.around ih (by simp) rfl
  | parentheses _ ih =>
      exact apart_nil.around (ih.around apart_nil (by simp) rfl) (by simp) rfl
  | number => exact apart_singleton (by simp)
  | name => exact apart_singleton (by simp)
  | word => exact apart_singleton (by simp)
  | @call n text ts fs _ ih =>
      exact (apart_singleton (t := .word text) (by simp)).around
        (ih.around apart_nil (by simp) rfl) (by simp) rfl
  | noArgument => exact apart_nil
  | lastArgument _ ih => exact ih
  | argument _ _ ih ih' => exact ih.around ih' (by simp) rfl

/-- **The text of a formula is a spelling of its tokens.** -/
theorem renders_of_derives {part : Part} {n : Nat} {cs : List Char} {fs : List Formula}
    (h : Derives part n (tokensOf (lexemes [] cs)) fs) (hascii : ∀ c ∈ cs, c.toNat < 128)
    (hplain : ∀ c ∈ cs, isBlank c = false)
    (hopen : ∀ n, .name n ∈ tokensOf (lexemes [] cs) → '[' ∉ n.toList) :
    Renders (tokensOf (lexemes [] cs)) cs :=
  renders_tokensOf cs.length cs (Nat.le_refl _) hascii hplain hopen h.apart

end Markbook
