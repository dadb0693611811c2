import Mathlib.Data.List.Forall2
import Mathlib.Tactic.Common
import Markbook.Json.Printer
import Markbook.Json.Reader
import Markbook.Proofs.Decimal.Canonical

/-!
# Strings and numbers read back

What is written for a text or a number is read as that text or number, whatever follows, as long as
what follows does not go on with the number.

Escapes make this less than obvious for texts: a control character is written as the number of a
code unit, and code units are joined to characters only when the whole text has been read.  Code
units below the surrogates stand for themselves, so it does not matter what they stand next to.

* `readString?_append` — texts.
* `readNumber?_append` — numbers.
-/

namespace Markbook.Json

/-! ## Texts -/

/-- A piece stands for a character by itself, whatever pieces surround it. -/
inductive Piece.StandsFor : Piece → Char → Prop
  | char (c : Char) : StandsFor (.char c) c
  | unit {c : Char} : c.toNat < 0x20 → StandsFor (.unit c.toNat) c

lemma hexUnit?_control {n : Nat} (h : n < 0x20) :
    hexUnit? '0' '0' (hexDigit (n / 16)) (hexDigit (n % 16)) = some n := by
  have hall : ∀ n < 0x20, hexUnit? '0' '0' (hexDigit (n / 16)) (hexDigit (n % 16)) = some n := by
    decide
  exact hall n h

/-- Puts a piece in front of those that are read from a text. -/
def behind (p : Piece) (r : Option (List Piece × List Char)) : Option (List Piece × List Char) :=
  r.bind fun (ps, cs) => some (p :: ps, cs)

/-- An escape of one letter is read as the character it names. -/
lemma readPieces?_escape {e c : Char} (he : e ≠ 'u') (hc : escaped? e = some c) (cs : List Char) :
    readPieces? ('\\' :: e :: cs) = behind (.char c) (readPieces? cs) := by
  rw [readPieces?.eq_def, behind]
  split
  · simp_all
  · simp_all
  · simp_all
  · next heq =>
      obtain ⟨rfl, rfl⟩ := List.cons.inj (List.cons.inj heq).2
      rw [hc]
      rfl
  · next hnot heq =>
      obtain ⟨hc', hcs⟩ := List.cons.inj heq
      exact (hnot _ _ hc'.symm hcs.symm).elim

/-- A character that is written as it is stands for itself. -/
lemma readPieces?_cons {c : Char} (hquote : c ≠ '"') (hbackslash : c ≠ '\\')
    (hcontrol : ¬ c.toNat < 0x20) (cs : List Char) :
    readPieces? (c :: cs) = behind (.char c) (readPieces? cs) := by
  rw [readPieces?.eq_def, behind]
  split
  · simp_all
  · simp_all
  · simp_all
  · simp_all
  · next heq =>
      obtain ⟨rfl, rfl⟩ := List.cons.inj heq
      rw [if_neg hcontrol]
      rfl

/-- Every character is read as a piece that stands for it. -/
lemma readPieces?_writeChar (c : Char) : ∃ p : Piece, p.StandsFor c ∧ ∀ cs,
    readPieces? (writeChar c ++ cs) = behind p (readPieces? cs) := by
  rw [writeChar]
  split_ifs with hquote hbackslash hback hfeed hline hreturn htab hcontrol
  · exact ⟨.char c, .char c, readPieces?_escape (by decide) (by rw [hquote]; rfl)⟩
  · exact ⟨.char c, .char c, readPieces?_escape (by decide) (by rw [hbackslash]; rfl)⟩
  · exact ⟨.char c, .char c, readPieces?_escape (by decide) (hback ▸ rfl)⟩
  · exact ⟨.char c, .char c, readPieces?_escape (by decide) (hfeed ▸ rfl)⟩
  · exact ⟨.char c, .char c, readPieces?_escape (by decide) (hline ▸ rfl)⟩
  · exact ⟨.char c, .char c, readPieces?_escape (by decide) (hreturn ▸ rfl)⟩
  · exact ⟨.char c, .char c, readPieces?_escape (by decide) (htab ▸ rfl)⟩
  · refine ⟨.unit c.toNat, .unit hcontrol, fun cs => ?_⟩
    simp only [List.cons_append, List.nil_append, readPieces?, hexUnit?_control hcontrol]
    rfl
  · exact ⟨.char c, .char c, readPieces?_cons hquote hbackslash hcontrol⟩

lemma exists_readPieces? : ∀ (content rest : List Char), ∃ ps,
    List.Forall₂ Piece.StandsFor ps content ∧
      readPieces? (content.flatMap writeChar ++ '"' :: rest) = some (ps, rest)
  | [], rest => ⟨[], .nil, by rw [List.flatMap_nil, List.nil_append, readPieces?]⟩
  | c :: content, rest => by
      obtain ⟨p, hp, hread⟩ := readPieces?_writeChar c
      obtain ⟨ps, hps, hrest⟩ := exists_readPieces? content rest
      refine ⟨p :: ps, .cons hp hps, ?_⟩
      rw [List.flatMap_cons, List.append_assoc, hread, hrest]
      rfl

lemma not_surrogate {n : Nat} (h : n < 0x20) :
    isHighSurrogate n = false ∧ isLowSurrogate n = false := by
  have hall : ∀ n < 0x20, isHighSurrogate n = false ∧ isLowSurrogate n = false := by decide
  exact hall n h

/-- Code units below the surrogates are not joined to anything. -/
lemma joinPieces?_unit {n : Nat} (h : n < 0x20) (ps : List Piece) :
    joinPieces? (.unit n :: ps) = (joinPieces? ps).map (Char.ofNat n :: ·) := by
  obtain ⟨hhigh, hlow⟩ := not_surrogate h
  rw [joinPieces?.eq_def]
  split <;> simp_all

lemma joinPieces?_of_standsFor {ps : List Piece} {content : List Char}
    (h : List.Forall₂ Piece.StandsFor ps content) : joinPieces? ps = some content := by
  induction h with
  | nil => rfl
  | cons hp _ ih =>
      cases hp with
      | char c => rw [joinPieces?, ih, Option.map_some]
      | unit hcontrol =>
          rw [joinPieces?_unit hcontrol, ih, Option.map_some, Char.ofNat_toNat]

/-- **A text is read back** from between its quotes. -/
theorem readString?_append (content rest : List Char) :
    readString? (content.flatMap writeChar ++ '"' :: rest) =
      some (some (String.ofList content), rest) := by
  obtain ⟨ps, hps, hread⟩ := exists_readPieces? content rest
  rw [readString?, hread]
  change some ((joinPieces? ps).map String.ofList, rest) = _
  rw [joinPieces?_of_standsFor hps, Option.map_some]

/-! ## Numbers -/

/-- The digits of a number do not go on here. -/
def EndsDigits (cs : List Char) : Prop :=
  ∀ c ∈ cs.head?, c.isDigit = false

/-- A number does not go on here. -/
def EndsNumber (cs : List Char) : Prop :=
  ∀ c ∈ cs.head?, c.isDigit = false ∧ c ≠ '.' ∧ c ≠ 'e' ∧ c ≠ 'E'

lemma EndsNumber.endsDigits {cs : List Char} (h : EndsNumber cs) : EndsDigits cs :=
  fun c hc => (h c hc).1

lemma spanDigits_append {digits cs : List Char} (hdigits : ∀ c ∈ digits, c.isDigit = true)
    (hcs : EndsDigits cs) : spanDigits (digits ++ cs) = (digits, cs) := by
  have hnone : cs.takeWhile Char.isDigit = [] ∧ cs.dropWhile Char.isDigit = cs := by
    cases cs with
    | nil => exact ⟨rfl, rfl⟩
    | cons c cs => simp [hcs c rfl]
  rw [spanDigits, List.takeWhile_append_of_pos hdigits, List.dropWhile_append_of_pos hdigits,
    hnone.1, hnone.2, List.append_nil]

lemma readDigits?_append {digits cs : List Char} (hne : digits ≠ [])
    (hdigits : ∀ c ∈ digits, c.isDigit = true) (hcs : EndsDigits cs) :
    readDigits? (digits ++ cs) = some (digits, cs) := by
  rw [readDigits?, spanDigits_append hdigits hcs]
  cases digits with
  | nil => exact absurd rfl hne
  | cons c digits => rfl

lemma readWhole?_append {n : Numeral} {cs : List Char} (h : n.Canonical) (hcs : EndsDigits cs) :
    readWhole? (n.whole ++ cs) = some (n.whole, cs) := by
  rw [readWhole?, spanDigits_append h.whole hcs]
  rcases h.leading with hzero | ⟨c, digits, hwhole, hc⟩
  · rw [hzero]
    rfl
  · rw [hwhole]
    split <;> simp_all

lemma readFraction?_append {n : Numeral} {cs : List Char} (h : n.Canonical)
    (hcs : EndsDigits cs) (hpoint : '.' ∉ cs.head?) :
    readFraction? ((if n.fraction = [] then [] else '.' :: n.fraction) ++ cs) =
      some (n.fraction, cs) := by
  split_ifs with hnone
  · rw [List.nil_append, hnone, readFraction?.eq_def]
    split
    · simp at hpoint
    · rfl
  · exact readDigits?_append hnone h.fraction hcs

lemma readPower?_digits {digits cs : List Char} (hne : digits ≠ [])
    (hdigits : ∀ c ∈ digits, c.isDigit = true) (hcs : EndsDigits cs) :
    readPower? (digits ++ cs) = some ((readDigits digits : Int), cs) := by
  have hsign : spanSign (digits ++ cs) = (false, digits ++ cs) := by
    cases digits with
    | nil => exact absurd rfl hne
    | cons c digits =>
        have hc := hdigits c List.mem_cons_self
        rw [List.cons_append, spanSign.eq_def]
        split <;> simp_all
  simp only [readPower?, hsign, readDigits?_append hne hdigits hcs]
  rfl

lemma readPower?_plus {digits cs : List Char} (hne : digits ≠ [])
    (hdigits : ∀ c ∈ digits, c.isDigit = true) (hcs : EndsDigits cs) :
    readPower? ('+' :: digits ++ cs) = some ((readDigits digits : Int), cs) := by
  simp only [readPower?, List.cons_append, spanSign, readDigits?_append hne hdigits hcs]
  rfl

lemma readPower?_minus {digits cs : List Char} (hne : digits ≠ [])
    (hdigits : ∀ c ∈ digits, c.isDigit = true) (hcs : EndsDigits cs) :
    readPower? ('-' :: digits ++ cs) = some (-(readDigits digits : Int), cs) := by
  simp only [readPower?, List.cons_append, spanSign, readDigits?_append hne hdigits hcs]
  rfl

lemma readExponent?_append {plusSign : Bool} {exponent : Int} {cs : List Char}
    (hcs : EndsNumber cs) :
    Json.readExponent? (Numeral.exponentChars plusSign exponent ++ cs) = some (exponent, cs) := by
  have hne := digitsOf_ne_nil exponent.natAbs
  have hdigits : ∀ c ∈ digitsOf exponent.natAbs, c.isDigit = true :=
    fun c => isDigit_of_mem_digitsOf
  have hvalue := readDigits_digitsOf exponent.natAbs
  rw [Numeral.exponentChars]
  split_ifs with hzero hnegative hplus
  · rw [hzero, List.nil_append, Json.readExponent?.eq_def]
    split <;> simp_all [EndsNumber]
  · change readPower? ('-' :: digitsOf exponent.natAbs ++ cs) = _
    rw [readPower?_minus hne hdigits hcs.endsDigits, hvalue]
    congr 2
    omega
  · change readPower? ('+' :: digitsOf exponent.natAbs ++ cs) = _
    rw [readPower?_plus hne hdigits hcs.endsDigits, hvalue]
    congr 2
    omega
  · change readPower? (digitsOf exponent.natAbs ++ cs) = _
    rw [readPower?_digits hne hdigits hcs.endsDigits, hvalue]
    congr 2
    omega

/-- What follows the digits of a numeral does not go on with them. -/
lemma endsDigits_exponentChars {plusSign : Bool} {exponent : Int} {cs : List Char}
    (hcs : EndsNumber cs) : EndsDigits (Numeral.exponentChars plusSign exponent ++ cs) ∧
      '.' ∉ (Numeral.exponentChars plusSign exponent ++ cs).head? := by
  rw [Numeral.exponentChars]
  split_ifs with hzero
  · exact ⟨hcs.endsDigits, fun hpoint => (hcs '.' hpoint).2.1 rfl⟩
  all_goals exact ⟨fun c hc => Option.some.inj hc ▸ by decide, fun hc => by cases hc⟩

lemma endsDigits_fraction {fraction cs : List Char} (hcs : EndsDigits cs) :
    EndsDigits ((if fraction = [] then [] else '.' :: fraction) ++ cs) := by
  split_ifs
  · exact hcs
  · exact fun c hc => Option.some.inj hc ▸ by decide

/-- **A number is read back** from its text. -/
theorem readNumber?_append {plusSign negative : Bool} {n : Numeral} {cs : List Char}
    (h : n.Canonical) (hcs : EndsNumber cs) :
    readNumber? ((if negative then ['-'] else []) ++ n.chars plusSign ++ cs) =
      some (number negative n, cs) := by
  obtain ⟨hends, hpoint⟩ := @endsDigits_exponentChars plusSign n.exponent cs hcs
  have hwhole := readWhole?_append h (@endsDigits_fraction n.fraction _ hends)
  have hfraction := readFraction?_append h hends hpoint
  have hexponent := @readExponent?_append plusSign n.exponent cs hcs
  rw [Numeral.chars]
  simp only [List.append_assoc] at hwhole hfraction hexponent ⊢
  cases negative with
  | true =>
      simp only [if_true, List.cons_append, List.nil_append, readNumber?, hwhole, hfraction,
        hexponent, Option.bind_eq_bind, Option.bind_some]
      rfl
  | false =>
      -- the first character is a digit, so no minus
      obtain ⟨c, rest, hc, htext⟩ := h.exists_whole
      have hunsigned : readNumber? (n.whole ++ ((if n.fraction = [] then [] else '.' :: n.fraction)
          ++ (Numeral.exponentChars plusSign n.exponent ++ cs))) = some (number false n, cs) := by
        rw [readNumber?]
        · simp only [hwhole, hfraction, hexponent, Option.bind_eq_bind, Option.bind_some]
          rfl
        · rw [htext]
          rintro cs heq
          rw [(List.cons.inj heq).1] at hc
          exact absurd hc (by decide)
      simpa using hunsigned

end Markbook.Json
