import Markbook.Proofs.Decimal.Sign
import Markbook.Proofs.Formula.Cutting
import Markbook.Proofs.Formula.Leaves
import Markbook.Proofs.Formula.Names

/-!
# What a tree is made of

Not every tree can be read from a text.  One that was has a bounded number of operators, its numbers
have no minus, and its functions are words in lower case.  A lenient reading is no exception: the
zeros and closing parentheses that it puts in have these properties too.

* `Token.Sound`, `sound_of_mem_tokens` — what the tokens of a text hold.
* `exists_tokens_of_read` — the tokens that a tree is made from.
* `operators_of_read`, `signClear_of_mem_literals`, `isWord_of_mem_functions` — what a tree that was
  read is made of.
-/

namespace Markbook

/-! ## Tokens -/

/-- Could the token be cut off a text without white space? -/
def Token.Sound : Token → Prop
  | number x => SignClear x
  | word w => IsWord w.toList
  | _ => True

lemma Written.sound {t : Token} {u : List Char} (h : Written t u) : t.Sound := by
  cases h with
  | @sign c t ht =>
      unfold Token.ofSign? at ht
      split at ht <;> cases ht <;> trivial
  | word hw => simpa [Token.Sound] using hw
  | number _ _ => exact signClear_toFloat _
  | bracket _ _ => trivial

lemma sound_next {names : List String} {before : Option Char} {c : Char} {cs : List Char}
    (hplain : ∀ d ∈ cs, isBlank d = false) : (Token.next names before c cs).1.Sound := by
  rw [Token.next]
  split
  · trivial
  · by_cases hvalid : ∀ text, (Token.plainNext c cs).1 ≠ .invalid text
    · exact (written_plainNext hplain hvalid).sound
    · push Not at hvalid
      obtain ⟨text, htext⟩ := hvalid
      rw [htext]
      trivial

/-- **What the tokens of a text without white space hold.** -/
lemma sound_of_mem_tokens {names : List String} {text : String}
    (h : ∀ c ∈ text.toList, isBlank c = false) : ∀ t ∈ tokens names text, t.Sound := by
  intro t ht
  obtain ⟨l, hl, rfl⟩ := List.mem_map.mp ht
  obtain ⟨before, c, rest, hrest, htoken⟩ := next_of_mem_lexemes _ _ _ _ hl
  rw [htoken]
  exact sound_next fun d hd => h d (hrest.subset (List.mem_cons_of_mem c hd))

/-- A reading puts in nothing but zeros and closing parentheses. -/
lemma Mended.mem {mode : Mode} {rest us vs : List Token} (h : Mended mode rest us vs) {t : Token}
    (ht : t ∈ vs) : t ∈ us ∨ t = .number 0 ∨ t = .rightParen := by
  induction h with
  | done => exact Or.inl ht
  | keep _ ih => grind
  | operand _ _ _ ih => grind
  | closing _ _ _ ih => grind

/-! ## Trees -/

namespace Formula

variable {mode : Mode} {names : List String} {text : String} {f : Formula}

/-- The tokens of the grammatical formula that a text was read as. -/
lemma exists_tokens_of_read (h : read mode names text = .ok f) :
    ∃ ts, Grammatical ts f ∧ ∀ t ∈ ts, t.Sound := by
  obtain ⟨c, hrun⟩ := run_of_parseWith h
  obtain ⟨us, vs, hsplit, hmended, hgrammatical⟩ := mended_of_formula hrun
  have hblank : ∀ c ∈ (normalize text).toList, isBlank c = false :=
    normalize_eq_self.mp (normalize_normalize text)
  refine ⟨vs, hgrammatical, fun t ht => ?_⟩
  rcases hmended.mem ht with hus | rfl | rfl
  · exact sound_of_mem_tokens hblank t (hsplit ▸ List.mem_append_left _ hus)
  · show SignClear 0
    decide +kernel
  · trivial

/-- **A tree that was read has a bounded number of operators.** -/
lemma operators_of_read (h : read mode names text = .ok f) : f.operators ≤ maxOperators := by
  obtain ⟨ts, hgrammatical, _⟩ := exists_tokens_of_read h
  exact hgrammatical.2

/-- **Its numbers have no minus.** -/
lemma signClear_of_mem_literals (h : read mode names text = .ok f) :
    ∀ x ∈ f.literals, SignClear x := by
  obtain ⟨ts, hgrammatical, hsound⟩ := exists_tokens_of_read h
  intro x hx
  have hx' : x ∈ literalsAll [f] := by simpa [literalsAll] using hx
  rw [literalsAll_of_derives hgrammatical.1, List.mem_filterMap] at hx'
  obtain ⟨t, ht, hnumber⟩ := hx'
  cases t with
  | number y =>
      obtain rfl := Option.some.inj hnumber
      exact hsound _ ht
  | _ => cases hnumber

/-- **Its functions are words in lower case.** -/
lemma isWord_of_mem_functions (h : read mode names text = .ok f) :
    ∀ g ∈ f.functions, ∃ w : String, IsWord w.toList ∧ g = lowerCase w := by
  obtain ⟨ts, hgrammatical, hsound⟩ := exists_tokens_of_read h
  intro g hg
  obtain ⟨w, hw, rfl⟩ := calls_of_derives hgrammatical.1 g (by simpa [functionsAll] using hg)
  exact ⟨w, hsound _ hw, rfl⟩

end Formula

end Markbook
