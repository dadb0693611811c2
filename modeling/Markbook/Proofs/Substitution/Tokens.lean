import Markbook.Proofs.Decimal.Score
import Markbook.Proofs.Substitution.Rewriting

/-!
# Writing a score into tokens

Writing a score into the text of a formula puts the tokens of the score in the place of every token
that stands for the name, and may change what stands in other brackets.  Everything else stays, and
operands stay apart: a score begins with a digit or a minus and ends in a digit.

* `Writable` — bindings whose names are identifiers and whose scores read back.
* `fill` — what becomes of a token.
* `Renders.substituteOne` — what becomes of a text.
* `Uncalled.flatMap_fill` — no new calls come about.
-/

namespace Markbook

/-- A binding that can be written into a formula: the name is an identifier, and the score is finite
and reads back from its text. -/
structure Writable (e : Binding) : Prop where
  name : IsIdentifier e.name.toList
  finite : e.score.isFinite = true
  readsBack : readScore? (printScore e.score) = some e.score

def scoreTokens (x : Float) : List Token :=
  tokensOf (lexemes [] (printScore x).toList)

/-- The tokens that a token turns into when the score of a name is written in. -/
def fill (e : Binding) : Token → List Token
  | .word w => if w = e.name then scoreTokens e.score else [.word w]
  | .name n =>
    if n = e.name then scoreTokens e.score
    else [.name (String.ofList (replaceWord e.name.toList (printScore e.score).toList n.toList))]
  | t => [t]

variable {e : Binding}

/-! ## The tokens of a score -/

/-- A score is a number, or a minus and a number. -/
lemma Writable.scoreTokens_eq (h : Writable e) : Renders (scoreTokens e.score)
      (printScore e.score).toList ∧
    ∃ x, scoreTokens e.score = [.number x] ∧ x = e.score ∨
      scoreTokens e.score = [.minus, .number x] ∧ -x = e.score := by
  obtain ⟨ds, n, hds, hn, hscore⟩ := numeral_of_printScore h.finite h.readsBack
  have hnumber : Renders [.number n.toDecimal.toFloat] ds := by
    simpa using Renders.cons (.number hds hn) (by simp) .nil
  rcases hscore with ⟨htext, hx⟩ | ⟨htext, hx⟩
  · rw [scoreTokens, htext, hnumber.tokens_eq]
    exact ⟨hnumber, _, Or.inl ⟨rfl, hx⟩⟩
  · have hminus : Renders [.minus, .number n.toDecimal.toFloat] ('-' :: ds) :=
      .cons (.sign rfl) (by simp [Token.isOperand]) hnumber
    rw [scoreTokens, htext, hminus.tokens_eq]
    exact ⟨hminus, _, Or.inr ⟨rfl, hx⟩⟩

lemma Writable.isNumberChar_of_mem (h : Writable e) {c : Char}
    (hc : c ∈ (printScore e.score).toList) : c = '-' ∨ isNumberChar c = true := by
  obtain ⟨ds, n, hds, _, ⟨htext, _⟩ | ⟨htext, _⟩⟩ := numeral_of_printScore h.finite h.readsBack
  · exact Or.inr (hds c (htext ▸ hc))
  · rw [htext] at hc
    rcases List.mem_cons.mp hc with rfl | hc
    · exact Or.inl rfl
    · exact Or.inr (hds c hc)

/-- A text of digits, points and signs is not rewritten. -/
lemma Writable.replaceWord_eq (h : Writable e) {new u : List Char}
    (hu : ∀ c ∈ u, c = '-' ∨ isNumberChar c = true) : replaceWord e.name.toList new u = u := by
  obtain ⟨d, hd, hnot⟩ := h.name.nonDigit
  have hident := h.name.chars d hd
  refine replaceWord_of_notMem hd fun hmem => ?_
  rcases hu d hmem with rfl | hnumber
  · exact absurd hident (by decide)
  · rw [(scan_isIdentifierChar hident).2.2.2, hnot] at hnumber
    cases hnumber

/-! ## What becomes of a token -/

lemma fill_of_not_operand {t : Token} (ht : t.isOperand = false) : fill e t = [t] := by
  cases t <;> simp_all [fill, Token.isOperand]

/-- An operand may turn into a score; otherwise a token stays what it is, but for the text of a
name in brackets. -/
lemma fill_cases (e : Binding) (t : Token) : fill e t = scoreTokens e.score ∧ t.isOperand = true ∨
    ∃ t', fill e t = [t'] ∧ t'.isOperand = t.isOperand ∧ (t' = .leftParen → t = .leftParen) ∧
      ∀ w, t' = .word w → t = .word w := by
  cases t with
  | word w => by_cases hw : w = e.name <;> simp [fill, hw, Token.isOperand]
  | name n => by_cases hn : n = e.name <;> simp [fill, hn, Token.isOperand]
  | _ => simp [fill]

/-- What a token turns into is never nothing, begins with a parenthesis only where the token is one,
and ends in a word or an operand only where the token is one. -/
lemma Writable.fill_ends (h : Writable e) (t : Token) : fill e t ≠ [] ∧
    (∀ u ∈ (fill e t).head?, u = .leftParen → t = .leftParen) ∧
    (∀ u ∈ (fill e t).getLast?, (u.isOperand = true → t.isOperand = true) ∧
      ∀ w, u = .word w → t = .word w) := by
  rcases fill_cases e t with ⟨hfill, ht⟩ | ⟨t', hfill, hoperand, hparen, hword⟩
  · obtain ⟨_, x, ⟨htokens, _⟩ | ⟨htokens, _⟩⟩ := h.scoreTokens_eq <;>
      simp [hfill, htokens, ht]
  · rw [hfill]
    simpa [hoperand] using ⟨hparen, hword⟩

/-! ## What becomes of a text -/

def rewriteOne (e : Binding) (cs : List Char) : List Char :=
  replaceWord e.name.toList (printScore e.score).toList
    (replaceAll (bracketOf e.name.toList) (printScore e.score).toList cs)

/-- An identifier is not made of digits and points, so its bare form is replaced too. -/
lemma Writable.substituteOne_eq (h : Writable e) (cs : List Char) :
    substituteOne cs e = rewriteOne e cs := by
  obtain ⟨d, hd, hnot⟩ := h.name.nonDigit
  have hall : e.name.toList.all isNumberChar = false := by
    rw [Bool.eq_false_iff, ne_eq, List.all_eq_true]
    intro hall
    have hnumber := hall d hd
    rw [(scan_isIdentifierChar (h.name.chars d hd)).2.2.2, hnot] at hnumber
    cases hnumber
  rw [substituteOne, hall]
  rfl

/-- What is written into brackets leaves them well formed. -/
lemma Writable.isBracketed (h : Writable e) {text : List Char} (htext : IsBracketed text) :
    IsBracketed (replaceWord e.name.toList (printScore e.score).toList text) := by
  have hmem : ∀ c ∈ replaceWord e.name.toList (printScore e.score).toList text,
      (c = '-' ∨ isNumberChar c = true) ∨ c ∈ text :=
    fun c hc => (mem_replaceWhere hc).imp_left h.isNumberChar_of_mem
  refine ⟨fun c hc => ?_, fun c hc => ?_, fun hc => ?_, fun hc => ?_⟩
  · rcases hmem c hc with (rfl | hnumber) | hc
    · decide
    · exact lt_of_isNumberChar hnumber
    · exact htext.ascii c hc
  · rcases hmem c hc with (rfl | hnumber) | hc
    · decide
    · exact (scan_isNumberChar hnumber).1
    · exact htext.plain c hc
  · rcases hmem _ hc with (heq | hnumber) | hc
    · exact absurd heq (by decide)
    · exact absurd hnumber (by decide)
    · exact htext.opening hc
  · rcases hmem _ hc with (heq | hnumber) | hc
    · exact absurd heq (by decide)
    · exact absurd hnumber (by decide)
    · exact htext.closing hc

lemma renders_singleton {t : Token} {u : List Char} (h : Spells t u) : Renders [t] u := by
  simpa using Renders.cons h (by simp) .nil

/-- Two spellings one after the other, if no operands meet. -/
lemma Renders.append {ts us : List Token} {u v : List Char} (hts : Renders ts u)
    (hus : Renders us v)
    (hmeet : ∀ t ∈ ts.getLast?, t.isOperand = true → ∀ t' ∈ us.head?, t'.isOperand = false) :
    Renders (ts ++ us) (u ++ v) := by
  induction hts with
  | nil => exact hus
  | @cons t ts u w hspells hapart hrest ih =>
      rw [List.append_assoc, List.cons_append]
      cases ts with
      | nil =>
          cases hrest
          exact .cons hspells (by simpa using hmeet) (by simpa using hus)
      | cons t' ts => exact .cons hspells (by simpa using hapart) (ih (by simpa using hmeet))

/-- The text of a token is rewritten to a spelling of what the token turns into, and the text `v`
behind it on its own. -/
def Respells (e : Binding) (t : Token) (u v : List Char) : Prop :=
  ∃ u', rewriteOne e (u ++ v) = u' ++ rewriteOne e v ∧ Renders (fill e t) u'

lemma Writable.respells_sign (h : Writable e) {c : Char} {t : Token}
    (ht : Token.ofSign? c = some t) (v : List Char) : Respells e t [c] v := by
  obtain ⟨hascii, _, hident, _, hbracket⟩ := scan_sign ht
  refine ⟨[c], ?_, ?_⟩
  · rw [rewriteOne, replaceAll_append v (by simpa using hbracket.symm)]
    exact replaceWord_cons h.name _ hident (by rw [isWordChar_eq hascii, hident])
  · rw [fill_of_not_operand (isOperand_of_ofSign? ht)]
    exact renders_singleton (.sign ht)

section

variable {v : List Char}

lemma Writable.respells_word (h : Writable e) {u : List Char} (hu : IsIdentifier u)
    (hv : EndsWord (replaceAll (bracketOf e.name.toList) (printScore e.score).toList v)) :
    Respells e (.word (String.ofList u)) u v := by
  refine ⟨replaceWord e.name.toList (printScore e.score).toList u, ?_, ?_⟩
  · have hbracket : '[' ∉ u := fun hmem => (scan_isIdentifierChar (hu.chars _ hmem)).2.2.1 rfl
    rw [rewriteOne, replaceAll_append v hbracket, replaceWord_append h.name _ hv]
    rfl
  · rw [replaceWord_word h.name hu.chars, fill]
    by_cases heq : u = e.name.toList
    · rw [if_pos heq, if_pos (by rw [heq, String.ofList_toList])]
      exact h.scoreTokens_eq.1
    · rw [if_neg heq, if_neg fun hname => heq (by rw [← hname, String.toList_ofList])]
      exact renders_singleton (.word hu)

lemma Writable.respells_number (h : Writable e) {ds : List Char} {n : Numeral}
    (hds : ∀ c ∈ ds, isNumberChar c = true) (hn : readNumeral? ds = some n)
    (hv : EndsWord (replaceAll (bracketOf e.name.toList) (printScore e.score).toList v)) :
    Respells e (.number n.toDecimal.toFloat) ds v := by
  refine ⟨ds, ?_, renders_singleton (.number hds hn)⟩
  have hbracket : '[' ∉ ds := fun hmem => (scan_isNumberChar (hds _ hmem)).2.2 rfl
  rw [rewriteOne, replaceAll_append v hbracket, replaceWord_append h.name _ hv,
    h.replaceWord_eq fun c hc => Or.inr (hds c hc)]
  rfl

/-- The name in brackets gives way to the score as a whole.  Another text in brackets keeps them,
and the score is written into it wherever the name stands there as a word. -/
lemma Writable.respells_bracket (h : Writable e) {text : List Char} (htext : IsBracketed text)
    (hv : EndsWord (replaceAll (bracketOf e.name.toList) (printScore e.score).toList v)) :
    Respells e (.name (String.ofList text)) (bracketOf text) v := by
  have hclosing : ']' ∉ e.name.toList := fun hmem => absurd (h.name.chars _ hmem) (by decide)
  rw [Respells, rewriteOne, replaceAll_brackets v hclosing htext]
  by_cases heq : text = e.name.toList
  · refine ⟨(printScore e.score).toList, ?_, ?_⟩
    · rw [if_pos heq, replaceWord_append h.name _ hv,
        h.replaceWord_eq fun c => h.isNumberChar_of_mem]
      rfl
    · rw [fill, if_pos (by rw [heq, String.ofList_toList])]
      exact h.scoreTokens_eq.1
  · refine ⟨bracketOf (replaceWord e.name.toList (printScore e.score).toList text), ?_, ?_⟩
    · have hopen : isIdentifierChar '[' = false ∧ isWordChar '[' = false := by decide
      have hclose : isIdentifierChar ']' = false ∧ isWordChar ']' = false := by decide
      rw [if_neg heq, bracketOf, List.cons_append, List.cons_append,
        replaceWord_cons h.name _ hopen.1 hopen.2, List.append_assoc,
        replaceWord_append h.name text (v := [']'] ++ _) (by simpa [EndsWord] using hclose),
        List.singleton_append, replaceWord_cons h.name _ hclose.1 hclose.2]
      simp [bracketOf, rewriteOne]
    · rw [fill, if_neg fun hname => heq (by rw [← hname, String.toList_ofList]),
        String.toList_ofList]
      exact renders_singleton (.bracket (h.isBracketed htext))

end

/-- **Rewriting the spelling of a token**: it becomes a spelling of what the token turns into, and
the text behind it is rewritten on its own. -/
lemma Writable.respells (h : Writable e) {t : Token} {u : List Char} (v : List Char)
    (hspells : Spells t u) (hv : t.isOperand = true → EndsWord
      (replaceAll (bracketOf e.name.toList) (printScore e.score).toList v)) :
    Respells e t u v := by
  cases hspells with
  | sign ht => exact h.respells_sign ht v
  | word hu => exact h.respells_word hu (hv rfl)
  | number hds hn => exact h.respells_number hds hn (hv rfl)
  | bracket htext => exact h.respells_bracket htext (hv rfl)

/-- The first of the tokens that several tokens turn into comes from the first of them. -/
lemma Writable.head?_flatMap_fill (h : Writable e) (ts : List Token) :
    (ts.flatMap (fill e)).head? = ts.head?.bind fun t => (fill e t).head? := by
  cases ts with
  | nil => rfl
  | cons t ts =>
      rw [List.flatMap_cons, List.head?_append_of_ne_nil _ (h.fill_ends t).1]
      rfl

/-- **What becomes of a text**: it is again a spelling, with the score in the place of the name. -/
theorem Renders.substituteOne {ts : List Token} {cs : List Char} (hrenders : Renders ts cs)
    (h : Writable e) : Renders (ts.flatMap (fill e)) (substituteOne cs e) := by
  rw [h.substituteOne_eq]
  induction hrenders with
  | nil => exact .nil
  | @cons t ts u v hspells hapart hrest ih =>
      have hv : t.isOperand = true → EndsWord
          (replaceAll (bracketOf e.name.toList) (printScore e.score).toList v) := by
        intro hoperand
        rcases hrest.starts_with_sign (hapart hoperand) with rfl | ⟨c, t', w, rfl, ht'⟩
        · exact endsWord_nil
        · obtain ⟨hascii, _, hident, _, hbracket⟩ := scan_sign ht'
          rw [← List.singleton_append, replaceAll_append w (by simpa using hbracket.symm)]
          simpa [EndsWord, isWordChar_eq hascii] using hident
      obtain ⟨u', hu', hfill⟩ := h.respells v hspells hv
      rw [hu', List.flatMap_cons]
      refine hfill.append ih fun x hx hoperand y hy => ?_
      have ht := ((h.fill_ends t).2.2 x hx).1 hoperand
      rw [h.head?_flatMap_fill] at hy
      obtain ⟨t', ht', hy⟩ := Option.bind_eq_some_iff.mp hy
      have hsign := hapart ht t' ht'
      rw [fill_of_not_operand hsign] at hy
      obtain rfl : t' = y := by simpa using hy
      exact hsign

/-! ## Calls -/

/-- None of the names stands as the name of a function: as a word in front of a parenthesis. -/
def Uncalled (names : List String) (ts : List Token) : Prop :=
  ts.IsChain fun t u => u = .leftParen → ∀ w, t = .word w → w ∉ names

/-- **Writing a score into a formula makes no new calls.** -/
lemma Uncalled.flatMap_fill {names : List String} {ts : List Token} (huncalled : Uncalled names ts)
    (h : Writable e) : Uncalled names (ts.flatMap (fill e)) := by
  unfold Uncalled at huncalled ⊢
  induction ts with
  | nil => exact .nil
  | cons t ts ih =>
      obtain ⟨hnext, hrest⟩ := List.isChain_cons.mp huncalled
      rw [List.flatMap_cons]
      refine List.isChain_append.mpr ⟨?_, ih hrest, fun x hx y hy heq w hw => ?_⟩
      · rcases fill_cases e t with ⟨hfill, _⟩ | ⟨t', hfill, _⟩
        · obtain ⟨_, x, ⟨htokens, _⟩ | ⟨htokens, _⟩⟩ := h.scoreTokens_eq <;>
            simp [hfill, htokens]
        · simp [hfill]
      · obtain ⟨_, _, hlast⟩ := h.fill_ends t
        rw [h.head?_flatMap_fill] at hy
        obtain ⟨t', ht', hy⟩ := Option.bind_eq_some_iff.mp hy
        exact hnext t' ht' ((h.fill_ends t').2.1 y hy heq) w ((hlast x hx).2 w hw)

end Markbook
