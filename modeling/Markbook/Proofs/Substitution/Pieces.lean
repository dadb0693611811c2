import Markbook.Proofs.Formula.Names
import Markbook.Proofs.Substitution.Rewriting

/-!
# The pieces of a text

A scanner that knows names cuts a text into pieces, and a piece is either a known name or the
spelling of a token.  Of the known names that stand at a place the one that goes first is taken, so
what stands in the text without being a piece of it is covered by a piece that goes before it, or
begins inside a known name.

Names start and end with a letter here, so they stand between edges of words, and in ASCII the
scanner and the rewriting of a text agree about where they do.

* `IsLettered`, `Leads` — names between letters, and where they stand.
* `CutsOff`, `Pieces` — one piece and all pieces of a text.
* `exists_pieces` — the tokens of a formula come from pieces of its text.
* `CutsOff.eq_or_earlier`, `CutsOff.exists_known` — a name that stands at the start of a piece, and
  one that stands inside it.
-/

namespace Markbook

/-! ## Names between letters -/

/-- A name that starts and ends with a letter. -/
structure IsLettered (name : List Char) : Prop where
  first : name.head?.any Char.isAlpha = true
  last : name.getLast?.any Char.isAlpha = true

instance (name : List Char) : Decidable (IsLettered name) :=
  decidable_of_iff (name.head?.any Char.isAlpha = true ∧ name.getLast?.any Char.isAlpha = true)
    ⟨fun h => ⟨h.1, h.2⟩, fun h => ⟨h.first, h.last⟩⟩

/-- The text begins with `w`, and no word goes on behind it. -/
def Leads (w cs : List Char) : Prop :=
  ∃ rest, cs = w ++ rest ∧ rest.head?.any isWordChar = false

lemma isIdentifierChar_of_isAlpha {c : Char} (h : c.isAlpha = true) :
    isIdentifierChar c = true := by
  simp [isIdentifierChar, Char.isAlphanum, h]

/-- A sign is no letter. -/
lemma isAlpha_of_ofSign? {c : Char} {t : Token} (h : Token.ofSign? c = some t) :
    c.isAlpha = false := by
  obtain ⟨_, _, hident, _⟩ := scan_sign h
  rw [Bool.eq_false_iff]
  intro hletter
  rw [isIdentifierChar_of_isAlpha hletter] at hident
  cases hident

/-- No letter stands in a number. -/
lemma isAlpha_of_isNumberChar {c : Char} (h : isNumberChar c = true) : c.isAlpha = false := by
  have hall := forall_ascii (p := fun c => !isNumberChar c || !c.isAlpha) (by decide)
    (lt_of_isNumberChar h)
  simpa [h] using hall

variable {name : List Char}

namespace IsLettered

lemma exists_cons (h : IsLettered name) : ∃ c rest, name = c :: rest ∧ c.isAlpha = true := by
  cases name with
  | nil => exact absurd h.first (by simp)
  | cons c rest => exact ⟨c, rest, rfl, by simpa using h.first⟩

lemma ne_nil (h : IsLettered name) : name ≠ [] := by
  obtain ⟨c, rest, rfl, _⟩ := h.exists_cons
  exact List.cons_ne_nil c rest

/-- A letter at either end is the edge of a word, so the name stands where words do. -/
lemma standsAsWord_iff (h : IsLettered name) {before : Option Char} {cs : List Char} :
    standsAsWord name before cs = true ↔ before.any isWordChar = false ∧ Leads name cs := by
  have hends : ∀ {c : Option Char}, c.any Char.isAlpha = true →
      c.any isIdentifierChar = true := by
    intro c hc
    cases c with
    | none => cases hc
    | some c => exact isIdentifierChar_of_isAlpha hc
  rw [standsAsWord_iff_of_ends (hends h.first) (hends h.last)]
  constructor
  · rintro ⟨⟨rest, rfl⟩, hbefore, hnext⟩
    exact ⟨hbefore, rest, rfl, by simpa using hnext⟩
  · rintro ⟨hbefore, rest, rfl, hnext⟩
    exact ⟨List.prefix_append name rest, hbefore, by simpa using hnext⟩

end IsLettered

lemma any_isNameChar_eq {c : Option Char} (h : ∀ d ∈ c, d.toNat < 128) :
    c.any isNameChar = c.any isWordChar := by
  cases c with
  | none => rfl
  | some d => simp only [Option.any_some, isNameChar_eq (h d rfl), isWordChar_eq (h d rfl)]

/-- **In ASCII the scanner and the rewriting agree** about where a name stands. -/
lemma standsAt_eq {n : String} (h : IsLettered n.toList) {before : Option Char} {cs : List Char}
    (hbefore : ∀ c ∈ before, c.toNat < 128) (hcs : ∀ c ∈ cs, c.toNat < 128) :
    standsAt before cs n = standsAsWord n.toList before cs := by
  have hends : ∀ {c : Option Char}, c.any Char.isAlpha = true → c.any isNameChar = true := by
    intro c hc
    cases c with
    | none => cases hc
    | some c => exact isNameChar_of_isIdentifierChar (isIdentifierChar_of_isAlpha hc)
  have hnext : ∀ c ∈ (cs.drop n.toList.length).head?, c.toNat < 128 :=
    fun c hc => hcs c (List.mem_of_mem_drop (List.mem_of_head? hc))
  rw [Bool.eq_iff_iff, h.standsAsWord_iff]
  simp only [standsAt, hends h.first, hends h.last, any_isNameChar_eq hbefore,
    any_isNameChar_eq hnext, Bool.true_and, Bool.and_eq_true, Bool.not_eq_true',
    List.isPrefixOf_iff_prefix]
  constructor
  · rintro ⟨⟨⟨rest, rfl⟩, hedge⟩, hrest⟩
    exact ⟨hedge, rest, rfl, by simpa using hrest⟩
  · rintro ⟨hedge, rest, rfl, hrest⟩
    exact ⟨⟨List.prefix_append _ rest, hedge⟩, by simpa using hrest⟩

/-! ## Cutting with known names -/

/-- A token with the text it was cut from. -/
structure Piece where
  token : Token
  text : List Char

/-- The text that pieces make up. -/
def spelling (ps : List Piece) : List Char :=
  ps.flatMap (·.text)

@[simp] lemma spelling_cons (p : Piece) (ps : List Piece) :
    spelling (p :: ps) = p.text ++ spelling ps := rfl

/-- The piece that is cut off in front of `rest`, `before` being the character in front of it: a
known name that goes before all others that stand there, or the spelling of a token where no known
name stands. -/
inductive CutsOff (names : List String) (before : Option Char) (rest : List Char) : Piece → Prop
  | known {n} : n ∈ names → standsAt before (n.toList ++ rest) n = true →
      (∀ m ∈ names, standsAt before (n.toList ++ rest) m = true →
        m = n ∨ longerFirst n m = true) → CutsOff names before rest ⟨.name n, n.toList⟩
  | plain {t u} : Spells t u → '[' ∉ u →
      (∀ m ∈ names, standsAt before (u ++ rest) m = false) → CutsOff names before rest ⟨t, u⟩

/-- The pieces of a text, no two operands being next to each other. -/
inductive Pieces (names : List String) : Option Char → List Piece → Prop
  | nil {before} : Pieces names before []
  | cons {before p ps} : CutsOff names before (spelling ps) p →
      (p.token.isOperand = true → ∀ q ∈ ps.head?, q.token.isOperand = false) →
      Pieces names p.text.getLast? ps → Pieces names before (p :: ps)

variable {names : List String} {before : Option Char} {rest : List Char} {p : Piece}

lemma Spells.ne_nil {t : Token} {u : List Char} (h : Spells t u) : u ≠ [] := by
  cases h with
  | sign _ => exact List.cons_ne_nil _ _
  | word hw => exact hw.ne_nil
  | number _ hn =>
      rintro rfl
      cases hn
  | bracket _ => exact List.cons_ne_nil _ _

/-- What is not an operand is a sign. -/
lemma CutsOff.exists_sign (h : CutsOff names before rest p) (hp : p.token.isOperand = false) :
    ∃ c, p.text = [c] ∧ Token.ofSign? c = some p.token := by
  cases h with
  | known => cases hp
  | plain hspells =>
      cases hspells with
      | sign ht => exact ⟨_, rfl, ht⟩
      | word _ => cases hp
      | number _ _ => cases hp
      | bracket _ => cases hp

lemma CutsOff.text_ne_nil (h : CutsOff names before rest p) (hnames : ∀ n ∈ names, n.toList ≠ []) :
    p.text ≠ [] := by
  cases h with
  | known hn _ _ => exact hnames _ hn
  | plain hspells => exact hspells.ne_nil

lemma CutsOff.isOperand_of_mem (h : CutsOff names before rest p) {c : Char} (hc : c ∈ p.text)
    (hletter : c.isAlpha = true) : p.token.isOperand = true := by
  by_contra hnot
  obtain ⟨d, htext, hd⟩ := h.exists_sign (Bool.eq_false_iff.mpr hnot)
  obtain rfl : c = d := by simpa [htext] using hc
  rw [isAlpha_of_ofSign? hd] at hletter
  cases hletter

/-! ## The scanner -/

lemma tokensOf_lexemesFrom_offset : ∀ (cs : List Char) (within : Nat) (before : Option Char)
    (offset offset' : Nat), tokensOf (lexemesFrom names within before offset cs) =
      tokensOf (lexemesFrom names within before offset' cs)
  | [], _, _, _, _ => by simp [lexemesFrom]
  | c :: cs, within + 1, _, _, _ => by
      rw [lexemesFrom, lexemesFrom]
      exact tokensOf_lexemesFrom_offset cs _ _ _ _
  | c :: cs, 0, before, _, _ => by
      rw [lexemesFrom, lexemesFrom]
      split_ifs
      · exact tokensOf_lexemesFrom_offset cs _ _ _ _
      · simp only [tokensOf, List.map_cons, List.cons.injEq, true_and]
        exact tokensOf_lexemesFrom_offset cs _ _ _ _

/-- Passing over the rest of a token, the last character of it is the one in front. -/
lemma tokensOf_lexemesFrom_within : ∀ (u v : List Char) (c : Char) (offset : Nat),
    tokensOf (lexemesFrom names u.length (some c) offset (u ++ v)) =
      tokensOf (lexemesFrom names 0 (c :: u).getLast? 0 v)
  | [], v, c, offset => tokensOf_lexemesFrom_offset v 0 (some c) offset 0
  | d :: u, v, c, offset => by
      rw [List.length_cons, List.cons_append, lexemesFrom, List.getLast?_cons_cons]
      exact tokensOf_lexemesFrom_within u v d _

lemma length_takeWhile_le (q : Char → Bool) (cs : List Char) :
    (cs.takeWhile q).length ≤ cs.length :=
  (List.takeWhile_prefix q).length_le

/-- Without brackets a token ends within the text, and stands for no name but a word. -/
lemma plainNext_of_ne {c : Char} {cs : List Char} (hc : c ≠ '[') :
    (Token.plainNext c cs).2 ≤ cs.length ∧ ∀ n, (Token.plainNext c cs).1 ≠ .name n := by
  have hword : (Token.wordFrom c cs).2 ≤ cs.length ∧ ∀ n, (Token.wordFrom c cs).1 ≠ .name n :=
    ⟨length_takeWhile_le _ cs, fun n => by simp [Token.wordFrom]⟩
  rw [Token.plainNext]
  cases hsign : Token.ofSign? c with
  | some t =>
      refine ⟨Nat.zero_le _, fun n heq => ?_⟩
      obtain rfl : t = .name n := heq
      cases isOperand_of_ofSign? hsign
  | none =>
      simp only [if_neg hc]
      split_ifs
      · simp only [Token.numberFrom]
        split_ifs
        · exact hword
        · cases readNumeral? (c :: cs.takeWhile isNumberChar) <;>
            exact ⟨length_takeWhile_le _ cs, by simp⟩
      · exact hword
      · exact ⟨Nat.zero_le _, by simp⟩

/-- A known name that the scanner finds goes before all others that stand there. -/
lemma cutsOff_known {c : Char} {cs : List Char} {n : String}
    (hsorted : names.Pairwise (longerFirst · ·)) (hnonempty : ∀ n ∈ names, n.toList ≠ [])
    (hfind : names.find? (standsAt before (c :: cs)) = some n) :
    ∃ u v, n.toList = c :: u ∧ cs = u ++ v ∧ CutsOff names before v ⟨.name n, c :: u⟩ := by
  obtain ⟨hstands, earlier, later, rfl, hearlier⟩ := List.find?_eq_some_iff_append.mp hfind
  have hn : n ∈ earlier ++ n :: later := by simp
  have hstart : n.toList <+: c :: cs := by
    simp only [standsAt, Bool.and_eq_true] at hstands
    exact List.isPrefixOf_iff_prefix.mp hstands.1.1
  obtain ⟨v, hv⟩ := hstart
  obtain ⟨d, u, hname⟩ := List.exists_cons_of_ne_nil (hnonempty n hn)
  rw [hname, List.cons_append] at hv
  obtain ⟨rfl, rfl⟩ := List.cons.inj hv
  refine ⟨u, v, hname, rfl, ?_⟩
  rw [← List.cons_append, ← hname] at hstands hearlier
  rw [← hname]
  refine .known hn hstands fun m hm hstands' => ?_
  rcases List.mem_append.mp hm with hm | hm
  · have hnot := hearlier m hm
    rw [hstands'] at hnot
    cases hnot
  · obtain ⟨hbehind, _⟩ := List.pairwise_cons.mp (List.pairwise_append.mp hsorted).2.1
    exact (List.mem_cons.mp hm).imp_right (hbehind m)

/-- Where no known name stands a spelling is cut off. -/
lemma cutsOff_plain {c : Char} {cs : List Char} (hascii : ∀ d ∈ c :: cs, d.toNat < 128)
    (hplain : ∀ d ∈ cs, isBlank d = false) (hopen : '[' ∉ c :: cs)
    (hvalid : ∀ text, (Token.plainNext c cs).1 ≠ .invalid text)
    (hfind : names.find? (standsAt before (c :: cs)) = none) :
    ∃ u v, cs = u ++ v ∧ (Token.plainNext c cs).2 = u.length ∧
      CutsOff names before v ⟨(Token.plainNext c cs).1, c :: u⟩ := by
  have hc : c ≠ '[' := fun heq => hopen (heq ▸ List.mem_cons_self)
  obtain ⟨hlength, hname⟩ := @plainNext_of_ne c cs hc
  have hspells := spells_plainNext hascii hplain hvalid fun n heq => absurd heq (hname n)
  refine ⟨cs.take (Token.plainNext c cs).2, cs.drop (Token.plainNext c cs).2,
    (List.take_append_drop _ cs).symm, (List.length_take_of_le hlength).symm,
    .plain hspells (fun hmem => hopen ?_) fun m hm => ?_⟩
  · rcases List.mem_cons.mp hmem with heq | hmem
    · exact absurd heq.symm hc
    · exact List.mem_cons_of_mem c (List.mem_of_mem_take hmem)
  · rw [List.cons_append, List.take_append_drop]
    simpa using List.find?_eq_none.mp hfind m hm

/-- **The scanner cuts off a piece.** -/
lemma exists_cutsOff {c : Char} {cs : List Char} (hsorted : names.Pairwise (longerFirst · ·))
    (hnonempty : ∀ n ∈ names, n.toList ≠ []) (hascii : ∀ d ∈ c :: cs, d.toNat < 128)
    (hplain : ∀ d ∈ cs, isBlank d = false) (hopen : '[' ∉ c :: cs)
    (hvalid : ∀ text, (Token.next names before c cs).1 ≠ .invalid text) :
    ∃ u v, cs = u ++ v ∧ (Token.next names before c cs).2 = u.length ∧
      CutsOff names before v ⟨(Token.next names before c cs).1, c :: u⟩ := by
  have hc : c ≠ '[' := fun heq => hopen (heq ▸ List.mem_cons_self)
  rw [Token.next, if_neg hc] at hvalid ⊢
  cases hfind : names.find? (standsAt before (c :: cs)) with
  | some n =>
      obtain ⟨u, v, hname, rfl, hcut⟩ := cutsOff_known hsorted hnonempty hfind
      have hlength : n.length - 1 = u.length := by
        rw [← String.length_toList, hname]
        rfl
      exact ⟨u, v, rfl, hlength, hcut⟩
  | none =>
      rw [hfind] at hvalid
      exact cutsOff_plain hascii hplain hopen hvalid hfind

/-- **The tokens of a formula come from pieces of its text.**  The induction is on the length of the
text; every piece takes at least one character. -/
theorem exists_pieces (hsorted : names.Pairwise (longerFirst · ·))
    (hnonempty : ∀ n ∈ names, n.toList ≠ []) : ∀ (length : Nat) (cs : List Char)
    (before : Option Char), cs.length ≤ length → (∀ c ∈ cs, c.toNat < 128) →
    (∀ c ∈ cs, isBlank c = false) → '[' ∉ cs →
    Apart (tokensOf (lexemesFrom names 0 before 0 cs)) →
    ∃ ps, spelling ps = cs ∧ tokensOf (lexemesFrom names 0 before 0 cs) = ps.map (·.token) ∧
      Pieces names before ps
  | _, [], _, _, _, _, _, _ => ⟨[], rfl, by simp [lexemesFrom, tokensOf], .nil⟩
  | length + 1, c :: cs, before, hlength, hascii, hplain, hopen, h => by
      rw [lexemesFrom, if_neg (by simp [hplain c List.mem_cons_self])] at h ⊢
      have hvalid : ∀ text, (Token.next names before c cs).1 ≠ .invalid text :=
        fun text heq => h.valid text (by simp [tokensOf, heq])
      have hcut := exists_cutsOff hsorted hnonempty hascii
        (fun d hd => hplain d (List.mem_cons_of_mem c hd)) hopen hvalid
      generalize Token.next names before c cs = cut at h hcut ⊢
      obtain ⟨u, v, rfl, hcut2, hcut⟩ := hcut
      simp only [tokensOf, List.map_cons, hcut2] at h ⊢
      have hrest := @tokensOf_lexemesFrom_within names u v c (0 + c.utf8Size)
      rw [tokensOf] at hrest
      rw [hrest] at h ⊢
      have hmem : ∀ d ∈ v, d ∈ c :: (u ++ v) :=
        fun d hd => List.mem_cons_of_mem c (List.mem_append_right u hd)
      obtain ⟨ps, rfl, htokens, hpieces⟩ := exists_pieces hsorted hnonempty length v
        (c :: u).getLast? (by simp only [List.length_cons, List.length_append] at hlength; omega)
        (fun d hd => hascii d (hmem d hd)) (fun d hd => hplain d (hmem d hd))
        (fun hbracket => hopen (hmem _ hbracket))
        ⟨fun text htext => h.valid text (List.mem_cons_of_mem _ htext), h.chain.tail⟩
      refine ⟨⟨cut.1, c :: u⟩ :: ps, rfl, by rw [htokens]; rfl, .cons hcut ?_ hpieces⟩
      intro hoperand q hq
      refine h.chain.rel_head? ?_ hoperand
      rw [htokens, List.head?_map, Option.mem_def.mp hq]
      rfl

/-! ## Where names stand -/

/-- Of two beginnings of one text, one begins with the other. -/
lemma Leads.comparable {w u v : List Char} (h : Leads w (u ++ v)) : w <+: u ∨ u <+: w := by
  obtain ⟨rest, heq, _⟩ := h
  exact List.prefix_or_prefix_of_prefix (heq ▸ List.prefix_append w rest) (List.prefix_append u v)

lemma Leads.head?_eq {w u v : List Char} (h : Leads w (u ++ v)) (hw : w ≠ []) (hu : u ≠ []) :
    u.head? = w.head? := by
  obtain ⟨rest, heq, _⟩ := h
  obtain ⟨c, w, rfl⟩ := List.exists_cons_of_ne_nil hw
  obtain ⟨d, u, rfl⟩ := List.exists_cons_of_ne_nil hu
  exact congrArg some (List.cons.inj heq).1

/-- A name between letters has to be known to the scanner unless it is a run of name characters. -/
lemma isPunctuated_eq {n : String} (hn : IsLettered n.toList) :
    isPunctuated n = !n.toList.all isNameChar := by
  obtain ⟨c, w, hname, hc⟩ := hn.exists_cons
  have hbracket : c ≠ '[' := by
    rintro rfl
    exact absurd hc (by decide)
  have hnumber : isNumberChar c = false := by
    rw [Bool.eq_false_iff]
    intro hnumber
    rw [isAlpha_of_isNumberChar hnumber] at hc
    cases hc
  simp [isPunctuated, hname, hbracket, hnumber]

/-- What goes on behind a name with punctuation has punctuation too. -/
lemma isPunctuated_of_start {m n : String} (hm : isPunctuated m = true) (hn : IsLettered n.toList)
    (hstart : m.toList <+: n.toList) : isPunctuated n = true := by
  have hchars : m.toList.all isNameChar = false := by
    simp only [isPunctuated, Bool.and_eq_true, Bool.not_eq_true'] at hm
    exact hm.2
  rw [isPunctuated_eq hn, Bool.not_eq_true', Bool.eq_false_iff, ne_eq, List.all_eq_true]
  intro hall
  rw [List.all_eq_true.mpr fun d hd => hall d (hstart.subset hd)] at hchars
  cases hchars

/-- A word that begins with a run of name characters standing on its own is that run. -/
lemma Leads.eq_of_word {w u v : List Char} (h : Leads w (u ++ v)) (hu : IsIdentifier u)
    (hv : EndsOperand v) (hw : ∀ c ∈ w, isNameChar c = true) : u = w := by
  obtain ⟨rest, heq, hnext⟩ := h
  rcases List.append_eq_append_iff.mp heq with ⟨x, rfl, rfl⟩ | ⟨x, rfl, rfl⟩
  · -- the run would go on behind the word
    cases x with
    | nil => simp
    | cons c x =>
        have hc := hv.isNameChar_eq_false c rfl
        rw [hw c (by simp)] at hc
        cases hc
  · -- the word would go on behind the run
    cases x with
    | nil => simp
    | cons c x =>
        have hc := isWordChar_of_isIdentifierChar (hu.chars c (by simp))
        simp [hc] at hnext

/-- A known name goes before a run of name characters that stands where it begins. -/
lemma longerFirst_of_leads {m n : String} (hm : isPunctuated m = true) (hn : IsLettered n.toList)
    (hplain : isPunctuated n = false) (hleads : Leads n.toList (m.toList ++ rest)) :
    longerFirst m n = true := by
  rcases hleads.comparable with hshort | hlong
  · have hne : n.toList ≠ m.toList := by
      intro heq
      rw [String.toList_inj.mp heq, hm] at hplain
      cases hplain
    have hlt : n.length < m.length := by
      rw [← String.length_toList, ← String.length_toList]
      exact Nat.lt_of_le_of_ne hshort.length_le fun heq => hne (hshort.eq_of_length heq)
    simp [longerFirst, hlt]
  · rw [isPunctuated_of_start hm hn hlong] at hplain
    cases hplain

section

variable (h : CutsOff names before rest p)
include h

/-- **A name that stands at the start of a piece** is that piece, or the piece is a known name that
goes before it. -/
theorem CutsOff.eq_or_earlier (hnames : ∀ m ∈ names, isPunctuated m = true)
    (hrest : p.token.isOperand = true → EndsOperand rest) {n : String} (hn : IsLettered n.toList)
    (hknown : isPunctuated n = true → n ∈ names)
    (hbefore : ∀ c ∈ before, c.toNat < 128) (hascii : ∀ c ∈ p.text ++ rest, c.toNat < 128)
    (hstands : standsAsWord n.toList before (p.text ++ rest) = true) :
    p.text = n.toList ∨ ∃ m ∈ names, p.text = m.toList ∧ longerFirst m n = true := by
  obtain ⟨_, hleads⟩ := hn.standsAsWord_iff.mp hstands
  rw [← standsAt_eq hn hbefore hascii] at hstands
  cases h with
  | @known m hm _ hfirst =>
      cases hpunctuated : isPunctuated n with
      | true =>
          rcases hfirst n (hknown hpunctuated) hstands with rfl | hlonger
          · exact Or.inl rfl
          · exact Or.inr ⟨m, hm, rfl, hlonger⟩
      | false =>
          exact Or.inr ⟨m, hm, rfl, longerFirst_of_leads (hnames m hm) hn hpunctuated hleads⟩
  | @plain t u hspells hbracket hnone =>
      obtain ⟨c, w, hname, hc⟩ := hn.exists_cons
      have hhead : u.head? = some c := by
        rw [hleads.head?_eq hn.ne_nil hspells.ne_nil, hname]
        rfl
      left
      cases hspells with
      | @sign d t ht =>
          obtain rfl : d = c := by simpa using hhead
          rw [isAlpha_of_ofSign? ht] at hc
          cases hc
      | word hw =>
          have hplain : isPunctuated n = false := by
            rw [Bool.eq_false_iff]
            intro hpunctuated
            rw [hnone n (hknown hpunctuated)] at hstands
            cases hstands
          rw [isPunctuated_eq hn, Bool.not_eq_false'] at hplain
          exact hleads.eq_of_word hw (hrest rfl) (List.all_eq_true.mp hplain)
      | number hds _ =>
          rw [isAlpha_of_isNumberChar (hds c (List.mem_of_head? hhead))] at hc
          cases hc
      | bracket _ => exact absurd List.mem_cons_self hbracket

/-- **Only a known name has the edge of a word and a letter behind it inside.** -/
theorem CutsOff.exists_known {x y : List Char} (hp : p.text = x ++ y) (hx : x ≠ [])
    (hedge : x.getLast?.any isWordChar = false) (hletter : y.head?.any Char.isAlpha = true) :
    ∃ m ∈ names, p.text = m.toList ∧ standsAt before (p.text ++ rest) m = true := by
  cases h with
  | @known m hm hstands _ => exact ⟨m, hm, rfl, hstands⟩
  | @plain t u hspells hbracket _ =>
      exfalso
      obtain ⟨c, hc, hc'⟩ := (Option.any_eq_true _ _).mp hletter
      obtain ⟨d, hd⟩ : ∃ d, x.getLast? = some d := ⟨_, List.getLast?_eq_some_getLast hx⟩
      have hmem : c ∈ u ∧ d ∈ u := by
        rw [show u = x ++ y from hp]
        exact ⟨List.mem_append_right x (List.mem_of_head? hc),
          List.mem_append_left y (List.mem_of_getLast? hd)⟩
      cases hspells with
      | @sign e t ht =>
          obtain rfl : c = e := List.mem_singleton.mp hmem.1
          rw [isAlpha_of_ofSign? ht] at hc'
          cases hc'
      | word hw =>
          have hword := isWordChar_of_isIdentifierChar (hw.chars d hmem.2)
          simp [hd, hword] at hedge
      | number hds _ =>
          rw [isAlpha_of_isNumberChar (hds c hmem.1)] at hc'
          cases hc'
      | bracket _ => exact absurd List.mem_cons_self hbracket

end

end Markbook
