import Mathlib.Data.List.TakeWhile
import Markbook.Proofs.Formula.Grammar
import Markbook.Proofs.Name
import Markbook.Proofs.Text.LowerCase
import Markbook.Text.Word

/-!
# Cutting a text into tokens

Where the scanner knows no names, what a text is cut into depends on nothing that stands in front.
So a text can be followed token by token, and for each token there is the question how it can be
written such that it is cut off whole.  A sign always is.  A number or a word is if no other one
goes on behind it, and a word that begins with digits has to go on with something else, or it would
be a number.  A name can be written in brackets if it has none that closes.

* `IsWord`, `Written` — how tokens are written.
* `Written.tokensOf_append` — cutting a token off, `WrittenAll.tokens_eq` cutting several.
* `written_plainNext` — what is cut off is a way to write the token.
-/

namespace Markbook

/-! ## Characters -/

/-- May the character stand in an identifier? -/
def isIdentifierChar (c : Char) : Bool :=
  c.isAlphanum || c == '_'

lemma lt_of_isIdentifierChar {c : Char} (h : isIdentifierChar c = true) : c.toNat < 128 := by
  rcases (Bool.or_eq_true _ _).mp h with halnum | hunder
  · rcases (Bool.or_eq_true _ _).mp halnum with hletter | hdigit
    · exact lt_of_isAlpha hletter
    · exact lt_of_isDigit hdigit
  · rw [eq_of_beq hunder]
    decide

lemma lt_of_isNumberChar {c : Char} (h : isNumberChar c = true) : c.toNat < 128 := by
  simp only [isNumberChar, Bool.or_eq_true, beq_iff_eq] at h
  rcases h with hdigit | rfl
  · exact lt_of_isDigit hdigit
  · decide

/-- In ASCII the characters of a name are those of an identifier. -/
lemma isNameChar_eq {c : Char} (h : c.toNat < 128) : isNameChar c = isIdentifierChar c := by
  rw [isNameChar, if_pos h, isIdentifierChar]

lemma isWordChar_eq {c : Char} (h : c.toNat < 128) : isWordChar c = isIdentifierChar c := by
  rw [isWordChar, if_pos h, isIdentifierChar]

lemma scan_isNumberChar {c : Char} (h : isNumberChar c = true) :
    isBlank c = false ∧ Token.ofSign? c = none ∧ c ≠ '[' := by
  have hall := forall_ascii (p := fun c => !isNumberChar c || (!isBlank c &&
    (Token.ofSign? c).isNone && c != '[')) (by decide) (lt_of_isNumberChar h)
  simpa [h, and_assoc] using hall

/-- A sign stands in no name, number or bracket, and is not white space. -/
lemma scan_sign {c : Char} {t : Token} (h : Token.ofSign? c = some t) :
    c.toNat < 128 ∧ isBlank c = false ∧ isIdentifierChar c = false ∧ isNumberChar c = false ∧
      c ≠ '[' := by
  unfold Token.ofSign? at h
  split at h <;> cases h <;> decide

lemma Ranges.holds_iff {ranges : Ranges} {c : Char} :
    ranges.holds c = true ↔ ∃ r ∈ ranges, r.1 ≤ c.toNat ∧ c.toNat ≤ r.2 := by
  simp [Ranges.holds, List.any_eq_true]

lemma Ranges.holds_append {ranges others : Ranges} {c : Char} :
    Ranges.holds (ranges ++ others) c = (ranges.holds c || others.holds c) := by
  simp [Ranges.holds, List.any_append]

/-- The blanks beyond ASCII are no letters and no numbers. -/
lemma wideBlanks_apart : ∀ blanks ∈ wideBlanks, ∀ letters ∈ alphabetic ++ numeric,
    letters.2 < blanks.1 ∨ blanks.2 < letters.1 := by
  decide +kernel

/-- What the scanner makes of a character of a name. -/
lemma scan_isNameChar {c : Char} (h : isNameChar c = true) :
    isBlank c = false ∧ Token.ofSign? c = none ∧ c ≠ '[' ∧ isNumberChar c = c.isDigit := by
  rcases Nat.lt_or_ge c.toNat 128 with hascii | hbeyond
  · have hall := forall_ascii (p := fun c => !isIdentifierChar c || (!isBlank c &&
      (Token.ofSign? c).isNone && c != '[' && isNumberChar c == c.isDigit)) (by decide) hascii
    rw [isNameChar_eq hascii] at h
    simpa [h, and_assoc] using hall
  · refine ⟨?_, ?_, ?_, ?_⟩
    · rw [isNameChar, if_neg (Nat.not_lt.mpr hbeyond), ← Ranges.holds_append] at h
      rw [isBlank, if_neg (Nat.not_lt.mpr hbeyond), Bool.eq_false_iff]
      intro hblank
      obtain ⟨blanks, hblanks, hin⟩ := Ranges.holds_iff.mp hblank
      obtain ⟨letters, hletters, hin'⟩ := Ranges.holds_iff.mp h
      rcases wideBlanks_apart blanks hblanks letters hletters with hapart | hapart <;> omega
    · cases hsign : Token.ofSign? c with
      | none => rfl
      | some t => exact absurd (scan_sign hsign).1 (Nat.not_lt.mpr hbeyond)
    · rintro rfl
      exact absurd hbeyond (by decide)
    · rw [isDigit_of_le hbeyond, Bool.eq_false_iff]
      exact fun hnumber => absurd (lt_of_isNumberChar hnumber) (Nat.not_lt.mpr hbeyond)

lemma isNameChar_of_isIdentifierChar {c : Char} (h : isIdentifierChar c = true) :
    isNameChar c = true := by
  rw [isNameChar_eq (lt_of_isIdentifierChar h), h]

/-- What the scanner makes of a character that may stand in an identifier. -/
lemma scan_isIdentifierChar {c : Char} (h : isIdentifierChar c = true) :
    isBlank c = false ∧ Token.ofSign? c = none ∧ c ≠ '[' ∧ isNumberChar c = c.isDigit :=
  scan_isNameChar (isNameChar_of_isIdentifierChar h)

/-! ## Ways to write a token -/

/-- A run of characters of names that is not made of digits. -/
structure IsWord (name : List Char) : Prop where
  chars : ∀ c ∈ name, isNameChar c = true
  nonDigit : ∃ c ∈ name, c.isDigit = false

/-- The ways to write a token such that it is cut off whole. -/
inductive Written : Token → List Char → Prop
  | sign {c t} : Token.ofSign? c = some t → Written t [c]
  | word {w} : IsWord w → Written (.word (String.ofList w)) w
  | number {ds n} : (∀ c ∈ ds, isNumberChar c = true) → readNumeral? ds = some n →
      Written (.number n.toDecimal.toFloat) ds
  | bracket {text} : (∀ c ∈ text, isBlank c = false) → ']' ∉ text →
      Written (.name (String.ofList text)) ('[' :: text ++ [']'])

def Token.isOperand : Token → Bool
  | .number _ | .word _ | .name _ => true
  | _ => false

lemma isOperand_of_ofSign? {c : Char} {t : Token} (h : Token.ofSign? c = some t) :
    t.isOperand = false := by
  unfold Token.ofSign? at h
  split at h <;> cases h <;> rfl

/-! ## Cutting -/

/-- Without known names it does not matter what stands in front. -/
lemma tokensOf_lexemesFrom_congr : ∀ (cs : List Char) (within : Nat) (before before' : Option Char)
    (offset offset' : Nat), tokensOf (lexemesFrom [] within before offset cs) =
      tokensOf (lexemesFrom [] within before' offset' cs)
  | [], _, _, _, _, _ => by simp [lexemesFrom]
  | c :: cs, within + 1, _, _, _, _ => by
      rw [lexemesFrom, lexemesFrom]
      exact tokensOf_lexemesFrom_congr cs _ _ _ _ _
  | c :: cs, 0, before, before', _, _ => by
      have hnext : Token.next [] before c cs = Token.next [] before' c cs := by
        simp [Token.next]
      rw [lexemesFrom, lexemesFrom, hnext]
      split_ifs
      · exact tokensOf_lexemesFrom_congr cs _ _ _ _ _
      · simp only [tokensOf, List.map_cons, List.cons.injEq, true_and]
        exact tokensOf_lexemesFrom_congr cs _ _ _ _ _

/-- The characters of a token that has been cut are passed over. -/
lemma tokensOf_lexemesFrom : ∀ (cs : List Char) (within : Nat) (before : Option Char)
    (offset : Nat), tokensOf (lexemesFrom [] within before offset cs) =
      tokensOf (lexemes [] (cs.drop within))
  | cs, 0, before, offset => tokensOf_lexemesFrom_congr cs 0 before none offset 0
  | [], within + 1, _, _ => by simp [lexemes, lexemesFrom]
  | c :: cs, within + 1, before, offset => by
      rw [lexemesFrom, List.drop_succ_cons]
      exact tokensOf_lexemesFrom cs _ _ _

/-- The token at the start of a text and those behind it. -/
lemma lexemesFrom_cons {before : Option Char} {offset : Nat} {c : Char} {cs : List Char}
    (h : ¬ isBlank c = true) : lexemesFrom [] 0 before offset (c :: cs) =
      ⟨(Token.plainNext c cs).1, offset, c :: cs⟩ ::
        lexemesFrom [] (Token.plainNext c cs).2 (some c) (offset + c.utf8Size) cs := by
  have hnext : Token.next [] before c cs = Token.plainNext c cs := by simp [Token.next]
  rw [lexemesFrom, if_neg h, hnext]

/-- Cutting one token off a text. -/
lemma tokensOf_lexemes_cons {c : Char} {cs : List Char} (h : isBlank c = false) :
    tokensOf (lexemes [] (c :: cs)) =
      (Token.plainNext c cs).1 ::
        tokensOf (lexemes [] (cs.drop (Token.plainNext c cs).2)) := by
  rw [lexemes, lexemesFrom_cons (by simp [h]), tokensOf, List.map_cons]
  exact congrArg _ (tokensOf_lexemesFrom cs _ _ _)

/-- Cutting the spelling `u` of a token off a text. -/
lemma tokensOf_lexemes_append {t : Token} {c : Char} {u v : List Char} (h : isBlank c = false)
    (hnext : Token.plainNext c (u ++ v) = (t, u.length)) :
    tokensOf (lexemes [] (c :: u ++ v)) = t :: tokensOf (lexemes [] v) := by
  rw [List.cons_append, tokensOf_lexemes_cons h, hnext, List.drop_left]

/-- The characters in front that have a property, where the rest begins with none. -/
lemma takeWhile_append_eq {p : Char → Bool} {u v : List Char} (hu : ∀ c ∈ u, p c = true)
    (hv : ∀ c ∈ v.head?, p c = false) : (u ++ v).takeWhile p = u := by
  rw [List.takeWhile_append_of_pos hu]
  cases v with
  | nil => simp
  | cons c v => simp [hv c rfl]

/-- A text falls apart into the characters in front that have a property and the rest. -/
lemma exists_takeWhile (p : Char → Bool) (cs : List Char) :
    ∃ u v, cs = u ++ v ∧ (∀ c ∈ u, p c = true) ∧ ∀ c ∈ v.head?, p c = false := by
  refine ⟨cs.takeWhile p, cs.dropWhile p, (List.takeWhile_append_dropWhile).symm,
    fun c hc => List.mem_takeWhile_imp hc, fun c hc => ?_⟩
  have hhead := List.head?_dropWhile_not p cs
  rw [Option.mem_def.mp hc] at hhead
  simpa using hhead

/-- What may follow an operand: nothing, or a sign. -/
def EndsOperand (v : List Char) : Prop :=
  ∀ c ∈ v.head?, ∃ t, Token.ofSign? c = some t

/-- No name goes on behind an operand. -/
lemma EndsOperand.isNameChar_eq_false {v : List Char} (hv : EndsOperand v) :
    ∀ d ∈ v.head?, isNameChar d = false := by
  intro d hd
  obtain ⟨t, ht⟩ := hv d hd
  obtain ⟨hascii, _, hnot, _⟩ := scan_sign ht
  rw [isNameChar_eq hascii, hnot]

section

variable {c : Char} {u v : List Char}

/-- A word is cut whole. -/
lemma wordFrom_append (hu : ∀ d ∈ u, isNameChar d = true) (hv : EndsOperand v) :
    Token.wordFrom c (u ++ v) = (.word (String.ofList (c :: u)), u.length) := by
  rw [Token.wordFrom, takeWhile_append_eq hu hv.isNameChar_eq_false]

/-- A word that starts with a digit is not taken for a number, as the digits go on with another
character of a name. -/
lemma numberFrom_word (hc : c.isDigit = true) (hu : ∀ d ∈ u, isNameChar d = true)
    (hdigit : ∃ d ∈ u, d.isDigit = false) :
    Token.numberFrom c (u ++ v) = Token.wordFrom c (u ++ v) := by
  obtain ⟨x, y, rfl, hx, hy⟩ := exists_takeWhile isNumberChar u
  have hdigits : ∀ d ∈ x, d.isDigit = true := by
    intro d hd
    rw [← (scan_isNameChar (hu d (List.mem_append_left y hd))).2.2.2]
    exact hx d hd
  cases y with
  | nil =>
      obtain ⟨d, hd, hnot⟩ := hdigit
      rw [hdigits d (by simpa using hd)] at hnot
      cases hnot
  | cons d w =>
      have htake : (x ++ d :: w ++ v).takeWhile isNumberChar = x := by
        rw [List.append_assoc]
        exact takeWhile_append_eq hx (by simpa using hy)
      have hnext : ((x ++ d :: w ++ v).drop x.length).head? = some d := by
        rw [List.append_assoc, List.drop_left]
        rfl
      have hname : isNameChar d = true := hu d (by simp)
      have hpoint : (c :: x).contains '.' = false := by
        rw [List.contains_eq_mem, decide_eq_false_iff_not, List.mem_cons]
        rintro (rfl | hmem)
        · exact absurd hc (by decide)
        · exact absurd (hdigits _ hmem) (by decide)
      simp only [Token.numberFrom, htake, hnext, hpoint, Option.any_some, hname, Bool.not_false,
        Bool.and_self, if_true]

lemma plainNext_word (h : IsWord (c :: u)) (hv : EndsOperand v) :
    Token.plainNext c (u ++ v) = (.word (String.ofList (c :: u)), u.length) := by
  have hc := h.chars c List.mem_cons_self
  have hu : ∀ d ∈ u, isNameChar d = true := fun d hd => h.chars d (List.mem_cons_of_mem c hd)
  obtain ⟨_, hsign, hbracket, hnumber⟩ := scan_isNameChar hc
  simp only [Token.plainNext, hsign, hbracket, if_false]
  cases hdigit : c.isDigit with
  | true =>
      rw [if_pos (hnumber.trans hdigit), numberFrom_word hdigit hu, wordFrom_append hu hv]
      obtain ⟨d, hd, hnot⟩ := h.nonDigit
      rcases List.mem_cons.mp hd with rfl | hd
      · rw [hdigit] at hnot
        cases hnot
      · exact ⟨d, hd, hnot⟩
  | false =>
      rw [if_neg (by simp [hnumber, hdigit]), if_pos hc, wordFrom_append hu hv]

/-- A number is cut whole. -/
lemma plainNext_number {n : Numeral} (h : ∀ d ∈ c :: u, isNumberChar d = true)
    (hread : readNumeral? (c :: u) = some n) (hv : EndsOperand v) :
    Token.plainNext c (u ++ v) = (.number n.toDecimal.toFloat, u.length) := by
  have hc := h c List.mem_cons_self
  obtain ⟨_, hsign, hbracket⟩ := scan_isNumberChar hc
  have htake : (u ++ v).takeWhile isNumberChar = u := by
    refine takeWhile_append_eq (fun d hd => h d (List.mem_cons_of_mem c hd)) fun d hd => ?_
    obtain ⟨t, ht⟩ := hv d hd
    exact (scan_sign ht).2.2.2.1
  have hnext : v.head?.any isNameChar = false := by
    rw [Option.any_eq_false]
    exact hv.isNameChar_eq_false
  simp only [Token.plainNext, hsign, hbracket, if_false, hc, if_true, Token.numberFrom, htake,
    List.drop_left, hnext, Bool.and_false, Bool.false_eq_true, hread]

/-- A bracketed name is cut up to its closing bracket. -/
lemma plainNext_bracket {text : List Char} (hplain : ∀ d ∈ text, isBlank d = false)
    (hclosing : ']' ∉ text) :
    Token.plainNext '[' (text ++ ']' :: v) =
      (.name (String.ofList text), text.length + 1) := by
  have htake : (text ++ ']' :: v).takeWhile (· != ']') = text :=
    takeWhile_append_eq (fun d hd => by
      simp only [bne_iff_ne, ne_eq]
      rintro rfl
      exact hclosing hd) (by simp)
  have hlength : text.length ≠ (text ++ ']' :: v).length := by simp
  have hnormal : normalize (String.ofList text) = String.ofList text :=
    normalize_eq_self.mpr (by simpa using hplain)
  have hsign : Token.ofSign? '[' = none := rfl
  simp only [Token.plainNext, hsign, if_true, Token.bracketed, htake, hlength, if_false, hnormal]

end

/-- **A token is cut off whole** where it is written so and nothing goes on behind it. -/
theorem Written.tokensOf_append {t : Token} {u v : List Char} (h : Written t u)
    (hv : t.isOperand = true → EndsOperand v) :
    tokensOf (lexemes [] (u ++ v)) = t :: tokensOf (lexemes [] v) := by
  cases h with
  | @sign c t ht =>
      refine tokensOf_lexemes_append (u := []) (scan_sign ht).2.1 ?_
      simp [Token.plainNext, ht]
  | word hw =>
      cases u with
      | nil =>
          obtain ⟨c, hc, _⟩ := hw.nonDigit
          cases hc
      | cons c u =>
          refine tokensOf_lexemes_append ?_ (plainNext_word hw (hv rfl))
          exact (scan_isNameChar (hw.chars c List.mem_cons_self)).1
  | number hds hn =>
      cases u with
      | nil => cases hn
      | cons c u =>
          refine tokensOf_lexemes_append ?_ (plainNext_number hds hn (hv rfl))
          exact (scan_isNumberChar (hds c List.mem_cons_self)).1
  | @bracket text hplain hclosing =>
      refine tokensOf_lexemes_append (u := text ++ [']']) (by decide) ?_
      rw [List.append_assoc, List.length_append]
      exact plainNext_bracket hplain hclosing

/-- No way to write a token has white space in it. -/
lemma Written.isBlank_eq_false {t : Token} {u : List Char} (h : Written t u) :
    ∀ c ∈ u, isBlank c = false := by
  cases h with
  | sign ht => exact List.forall_mem_singleton.mpr (scan_sign ht).2.1
  | word hw => exact fun c hc => (scan_isNameChar (hw.chars c hc)).1
  | number hds _ => exact fun c hc => (scan_isNumberChar (hds c hc)).1
  | bracket hplain _ =>
      have hbrackets : isBlank '[' = false ∧ isBlank ']' = false := by decide
      simpa [hbrackets, or_imp, forall_and] using hplain

/-- Several tokens written one after the other, such that each is cut off whole. -/
inductive WrittenAll : List Token → List Char → Prop
  | nil : WrittenAll [] []
  | cons {t ts u v} : Written t u → (t.isOperand = true → EndsOperand v) → WrittenAll ts v →
      WrittenAll (t :: ts) (u ++ v)

/-- A sign can be written in front of anything. -/
lemma WrittenAll.sign {c : Char} {t : Token} {ts : List Token} {v : List Char}
    (ht : Token.ofSign? c = some t) (h : WrittenAll ts v) : WrittenAll (t :: ts) (c :: v) :=
  .cons (.sign ht) (fun hoperand => by simp [isOperand_of_ofSign? ht] at hoperand) h

/-- **Cutting tokens that are written one after the other gives them back.** -/
theorem WrittenAll.tokens_eq {ts : List Token} {cs : List Char} (h : WrittenAll ts cs) :
    tokensOf (lexemes [] cs) = ts := by
  induction h with
  | nil => rfl
  | cons hfirst hends _ ih => rw [hfirst.tokensOf_append hends, ih]

lemma WrittenAll.isBlank_eq_false {ts : List Token} {cs : List Char} (h : WrittenAll ts cs) :
    ∀ c ∈ cs, isBlank c = false := by
  induction h with
  | nil => simp
  | cons hfirst _ _ ih => exact List.forall_mem_append.mpr ⟨hfirst.isBlank_eq_false, ih⟩

/-! ## What is cut off -/

section

variable {c : Char} {cs : List Char}

lemma written_wordFrom (hc : isNameChar c = true)
    (hdigit : ∃ d ∈ c :: cs.takeWhile isNameChar, d.isDigit = false) :
    Written (Token.wordFrom c cs).1 (c :: cs.take (Token.wordFrom c cs).2) := by
  obtain ⟨u, v, rfl, hu, hv⟩ := exists_takeWhile isNameChar cs
  rw [takeWhile_append_eq hu hv] at hdigit
  simp only [Token.wordFrom, takeWhile_append_eq hu hv, List.take_left]
  exact .word ⟨List.forall_mem_cons.mpr ⟨hc, hu⟩, hdigit⟩

lemma isDigit_of_isNumberChar {d : Char} (h : isNumberChar d = true) (hne : d ≠ '.') :
    d.isDigit = true := by
  simp only [isNumberChar, Bool.or_eq_true, beq_iff_eq] at h
  exact h.resolve_right hne

lemma isIdentifierChar_of_isDigit {d : Char} (h : d.isDigit = true) :
    isIdentifierChar d = true := by
  simp [isIdentifierChar, Char.isAlphanum, h]

lemma isNameChar_of_isDigit {d : Char} (h : d.isDigit = true) : isNameChar d = true :=
  isNameChar_of_isIdentifierChar (isIdentifierChar_of_isDigit h)

/-- Do the digits at the start of a text go on as a word? -/
def isWordAt (c : Char) (cs : List Char) : Bool :=
  !(c :: cs.takeWhile isNumberChar).contains '.' &&
    (cs.drop (cs.takeWhile isNumberChar).length).head?.any isNameChar

lemma numberFrom_of_word (h : isWordAt c cs = true) : Token.numberFrom c cs = Token.wordFrom c cs :=
  if_pos h

lemma numberFrom_of_not_word (h : ¬ isWordAt c cs = true) :
    Token.numberFrom c cs =
      match readNumeral? (c :: cs.takeWhile isNumberChar) with
      | some n => (.number n.toDecimal.toFloat, (cs.takeWhile isNumberChar).length)
      | none => (.invalid (String.ofList (c :: cs.takeWhile isNumberChar)),
          (cs.takeWhile isNumberChar).length) :=
  if_neg h

/-- Where digits go on as a word there is another character of a name behind them. -/
lemma exists_of_isWordAt (h : isWordAt c cs = true) :
    c ≠ '.' ∧ ∃ ds d rest, cs = ds ++ d :: rest ∧ (∀ e ∈ ds, isNumberChar e = true ∧
      isNameChar e = true) ∧ isNameChar d = true ∧ isNumberChar d = false := by
  obtain ⟨u, v, rfl, hu, hv⟩ := exists_takeWhile isNumberChar cs
  simp only [isWordAt, takeWhile_append_eq hu hv, List.drop_left, Bool.and_eq_true,
    Bool.not_eq_true', List.contains_eq_mem, decide_eq_false_iff_not, List.mem_cons,
    not_or] at h
  obtain ⟨⟨hne, hpoint⟩, hnext⟩ := h
  cases v with
  | nil => simp at hnext
  | cons d rest =>
      refine ⟨fun heq => hne heq.symm, u, d, rest, rfl, fun e he => ⟨hu e he, ?_⟩,
        by simpa using hnext, hv d rfl⟩
      exact isNameChar_of_isDigit
        (isDigit_of_isNumberChar (hu e he) fun heq => hpoint (heq ▸ he))

lemma written_numberFrom (hc : isNumberChar c = true)
    (hvalid : ∀ text, (Token.numberFrom c cs).1 ≠ .invalid text) :
    Written (Token.numberFrom c cs).1 (c :: cs.take (Token.numberFrom c cs).2) := by
  by_cases hword : isWordAt c cs = true
  · obtain ⟨hne, ds, d, rest, rfl, hds, hname, hnot⟩ := exists_of_isWordAt hword
    rw [numberFrom_of_word hword]
    refine written_wordFrom (isNameChar_of_isDigit (isDigit_of_isNumberChar hc hne))
      ⟨d, List.mem_cons_of_mem c ?_, ?_⟩
    · rw [List.takeWhile_append_of_pos fun e he => (hds e he).2]
      simp [hname]
    · simp only [isNumberChar, Bool.or_eq_false_iff] at hnot
      exact hnot.1
  · obtain ⟨u, v, rfl, hu, hv⟩ := exists_takeWhile isNumberChar cs
    rw [numberFrom_of_not_word hword, takeWhile_append_eq hu hv] at hvalid ⊢
    cases hread : readNumeral? (c :: u) with
    | none =>
        simp only [hread] at hvalid
        exact absurd rfl (hvalid _)
    | some n =>
        simp only [List.take_left]
        exact .number (List.forall_mem_cons.mpr ⟨hc, hu⟩) hread

lemma written_bracketed (hplain : ∀ d ∈ cs, isBlank d = false)
    (hvalid : ∀ text, (Token.bracketed cs).1 ≠ .invalid text) :
    Written (Token.bracketed cs).1 ('[' :: cs.take (Token.bracketed cs).2) := by
  obtain ⟨u, v, rfl, hu, hv⟩ := exists_takeWhile (· != ']') cs
  have hu' : ∀ d ∈ u, isBlank d = false := fun d hd => hplain d (List.mem_append_left v hd)
  have hnormal : normalize (String.ofList u) = String.ofList u :=
    normalize_eq_self.mpr (by simpa using hu')
  simp only [Token.bracketed, takeWhile_append_eq hu hv, hnormal] at hvalid ⊢
  split_ifs at hvalid ⊢ with hlength
  · exact absurd rfl (hvalid _)
  · cases v with
    | nil => simp at hlength
    | cons d w =>
        obtain rfl : d = ']' := by simpa using hv d rfl
        rw [show (u ++ ']' :: w).take (u.length + 1) = u ++ [']'] from
          List.take_length_add_append 1]
        exact .bracket hu' fun hd => by simpa using hu _ hd

/-- **What is cut off a text without white space is a way to write the token.** -/
theorem written_plainNext (hplain : ∀ d ∈ cs, isBlank d = false)
    (hvalid : ∀ text, (Token.plainNext c cs).1 ≠ .invalid text) :
    Written (Token.plainNext c cs).1 (c :: cs.take (Token.plainNext c cs).2) := by
  rw [Token.plainNext] at hvalid ⊢
  cases hsign : Token.ofSign? c with
  | some t => exact .sign hsign
  | none =>
      simp only [hsign] at hvalid ⊢
      split_ifs at hvalid ⊢ with hbracket hnumber hname
      · rw [hbracket]
        exact written_bracketed hplain hvalid
      · exact written_numberFrom hnumber hvalid
      · refine written_wordFrom hname ⟨c, List.mem_cons_self, ?_⟩
        simpa [(scan_isNameChar hname).2.2.2] using hnumber
      · exact absurd rfl (hvalid _)

end

end Markbook
