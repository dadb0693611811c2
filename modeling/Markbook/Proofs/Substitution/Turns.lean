import Markbook.Proofs.Decimal.Score
import Markbook.Proofs.Substitution.Pieces

/-!
# Writing scores into pieces, one name after the other

The scores are written into the text name by name, and each time the whole text is searched.  Where
the text is made of pieces, this comes down to writing each score in the place of the pieces that
are its name.  What has to be shown is that a name stands nowhere else when its turn comes.

A score that is written in already cannot be part of an occurrence: a name begins and ends with a
letter, and the scores of the names before it do not occur in it.  So the name stood at this place
in the first text, and there it is a piece, or is covered by one that has had its turn, or begins
inside a known name whose turn is yet to come.  The last is what must not happen.

* `RunsInto` — a name begins inside another one.
* `write`, `written` — the text with some scores written in.
* `Turn` — what is needed when the turn of a name comes.
* `Turn.substituteOne_written`, `foldl_substituteOne` — one turn, and all of them.
-/

namespace Markbook

/-- The name `n` stands in the text at a place inside `m`. -/
def RunsInto (m n cs : List Char) : Prop :=
  ∃ j < cs.length, ∃ i < j, j < i + m.length ∧
    standsAsWord m (cs.take i).getLast? (cs.drop i) = true ∧
    standsAsWord n (cs.take j).getLast? (cs.drop j) = true

instance (m n cs : List Char) : Decidable (RunsInto m n cs) :=
  inferInstanceAs (Decidable (∃ j < cs.length, ∃ i < j, j < i + m.length ∧
    standsAsWord m (cs.take i).getLast? (cs.drop i) = true ∧
    standsAsWord n (cs.take j).getLast? (cs.drop j) = true))

lemma runsInto_of_append {m n u x v : List Char} (hx : x ≠ []) (hlength : x.length < m.length)
    (hm : standsAsWord m u.getLast? (x ++ v) = true)
    (hn : standsAsWord n (u ++ x).getLast? v = true) (hv : v ≠ []) :
    RunsInto m n (u ++ x ++ v) := by
  have hpos := List.length_pos_of_ne_nil hx
  have hpos' := List.length_pos_of_ne_nil hv
  refine ⟨(u ++ x).length, ?_, u.length, ?_, ?_, ?_, ?_⟩
  · simp only [List.length_append]
    omega
  · simp only [List.length_append]
    omega
  · simp only [List.length_append]
    omega
  · rwa [List.append_assoc, List.take_left, List.drop_left]
  · rwa [List.take_left, List.drop_left]

/-! ## Scores in the place of pieces -/

/-- A binding whose score can be written in the place of its name: the name is plain and stands
between letters, and the score has no sign and reads back from its text. -/
structure Insertable (e : Binding) : Prop where
  name : IsLettered e.name.toList
  plain : normalize e.name = e.name
  finite : e.score.isFinite = true
  readsBack : readScore? (printScore e.score) = some e.score
  unsigned : '-' ∉ (printScore e.score).toList

/-- A score without a sign is a number. -/
lemma Insertable.numeral {e : Binding} (h : Insertable e) :
    (∀ c ∈ (printScore e.score).toList, isNumberChar c = true) ∧
      ∃ n, readNumeral? (printScore e.score).toList = some n ∧ n.toDecimal.toFloat = e.score := by
  obtain ⟨ds, n, hds, hn, ⟨htext, hx⟩ | ⟨htext, _⟩⟩ :=
    numeral_of_printScore h.finite h.readsBack
  · rw [htext]
    exact ⟨hds, n, hn, hx⟩
  · exact absurd (htext ▸ List.mem_cons_self) h.unsigned

/-- A score has no letter. -/
lemma Insertable.isAlpha_of_mem {e : Binding} (h : Insertable e) {c : Char}
    (hc : c ∈ (printScore e.score).toList) : c.isAlpha = false :=
  isAlpha_of_isNumberChar (h.numeral.1 c hc)

/-- What is written in the place of a text: the score, if it is a name that has had its turn. -/
def write (done : List Binding) (text : List Char) : List Char :=
  ((done.find? (·.name.toList = text)).map fun e => (printScore e.score).toList).getD text

/-- The text of the pieces with the scores written in. -/
def written (done : List Binding) (ps : List Piece) : List Char :=
  ps.flatMap fun p => write done p.text

section

variable {done : List Binding} {text : List Char}

lemma written_nil (ps : List Piece) : written [] ps = spelling ps := rfl

@[simp] lemma written_cons (p : Piece) (ps : List Piece) :
    written done (p :: ps) = write done p.text ++ written done ps := rfl

lemma write_cases (done : List Binding) (text : List Char) :
    (∃ e ∈ done, e.name.toList = text ∧ write done text = (printScore e.score).toList) ∨
      (∀ e ∈ done, e.name.toList ≠ text) ∧ write done text = text := by
  cases hfind : done.find? (·.name.toList = text) with
  | some e =>
      have hname : e.name.toList = text := by simpa using List.find?_some hfind
      exact Or.inl ⟨e, List.mem_of_find?_eq_some hfind, hname, by simp [write, hfind]⟩
  | none =>
      have hnone : ∀ e ∈ done, e.name.toList ≠ text := by simpa using hfind
      exact Or.inr ⟨hnone, by simp [write, hfind]⟩

lemma write_of_notMem (h : ∀ e ∈ done, e.name.toList ≠ text) : write done text = text := by
  rcases write_cases done text with ⟨e, he, hname, _⟩ | ⟨_, heq⟩
  · exact absurd hname (h e he)
  · exact heq

lemma write_append_of_notMem {e : Binding} (h : ∀ d ∈ done, d.name.toList ≠ text) :
    write (done ++ [e]) text = write [e] text := by
  have hnone : done.find? (·.name.toList = text) = none := by simpa using h
  rw [write, write, List.find?_append, hnone, Option.none_or]

/-- What is not replaced in a turn is written as before. -/
lemma write_append_of_ne {e : Binding}
    (h : ¬ (text = e.name.toList ∧ ∀ d ∈ done, d.name.toList ≠ text)) :
    write (done ++ [e]) text = write done text := by
  by_cases hdone : ∃ d ∈ done, d.name.toList = text
  · obtain ⟨d, hd, hname⟩ := hdone
    have hsome : (done.find? (·.name.toList = text)).isSome = true := by
      simpa using ⟨d, hd, hname⟩
    rw [write, write, List.find?_append, Option.or_of_isSome hsome]
  · push Not at hdone
    have hne : ∀ d ∈ [e], d.name.toList ≠ text := by
      intro d hd heq
      rw [List.mem_singleton.mp hd] at heq
      exact h ⟨heq.symm, hdone⟩
    rw [write_append_of_notMem hdone, write_of_notMem hne, write_of_notMem hdone]

/-- A sign is no name, so it stays. -/
lemma write_sign {c : Char} {t : Token} (hdone : ∀ e ∈ done, IsLettered e.name.toList)
    (ht : Token.ofSign? c = some t) : write done [c] = [c] := by
  refine write_of_notMem fun e he heq => ?_
  have hletter : c.isAlpha = true := by simpa [heq] using (hdone e he).first
  rw [isAlpha_of_ofSign? ht] at hletter
  cases hletter

/-- Behind an operand the text goes on with a sign, whatever is written in. -/
lemma endsOperand_written {names : List String} {before : Option Char} {ps : List Piece}
    (hdone : ∀ e ∈ done, IsLettered e.name.toList) (hpieces : Pieces names before ps)
    (hhead : ∀ q ∈ ps.head?, q.token.isOperand = false) : EndsOperand (written done ps) := by
  cases hpieces with
  | nil => simp [EndsOperand, written]
  | cons hcut _ _ =>
      obtain ⟨c, htext, ht⟩ := hcut.exists_sign (hhead _ rfl)
      simpa [EndsOperand, htext, write_sign hdone ht] using ⟨_, ht⟩

lemma endsOperand_spelling {names : List String} {before : Option Char} {ps : List Piece}
    (hpieces : Pieces names before ps) (hhead : ∀ q ∈ ps.head?, q.token.isOperand = false) :
    EndsOperand (spelling ps) := by
  rw [← written_nil]
  exact endsOperand_written (by simp) hpieces hhead

lemma EndsOperand.any_isWordChar {v : List Char} (hv : EndsOperand v) :
    v.head?.any isWordChar = false := by
  rw [Option.any_eq_false]
  intro c hc
  obtain ⟨t, ht⟩ := hv c hc
  obtain ⟨hascii, _, hident, _⟩ := scan_sign ht
  simp [isWordChar_eq hascii, hident]

/-- A beginning of a text reaches beyond a part in front, or ends within it. -/
lemma append_cases {y w z r : List Char} (h : y ++ w = z ++ r) :
    (∃ x, x ≠ [] ∧ z = y ++ x ∧ w = x ++ r) ∨ ∃ x, y = z ++ x ∧ r = x ++ w := by
  rcases List.append_eq_append_iff.mp h with ⟨x, rfl, hw⟩ | hinside
  · by_cases hx : x = []
    · subst hx
      exact Or.inr ⟨[], by simp, by simpa using hw.symm⟩
    · exact Or.inl ⟨x, hx, rfl, hw⟩
  · exact Or.inr hinside

/-- **Scores take no part in an occurrence.**  What begins the text behind `y` with scores written
in, ends in a letter and contains none of the scores, begins the text as it was. -/
lemma Leads.of_written {names : List String} (hdone : ∀ e ∈ done, Insertable e) :
    ∀ {ps : List Piece} {before : Option Char} {y z : List Char}, Pieces names before ps →
      (y.getLast?.any Char.isAlpha = true → ∀ q ∈ ps.head?, q.token.isOperand = false) →
      z.getLast?.any Char.isAlpha = true → (∀ e ∈ done, ¬ (printScore e.score).toList <:+: z) →
      Leads z (y ++ written done ps) → Leads z (y ++ spelling ps)
  | ps, before, y, z, hpieces, hy, hz, hscores, ⟨rest, heq, hnext⟩ => by
      rcases append_cases heq with ⟨x, hx, rfl, hrest⟩ | ⟨x, rfl, rfl⟩
      · rw [List.getLast?_append_of_ne_nil y hx] at hz
        have hsub : x <:+: y ++ x := (List.suffix_append y x).isInfix
        cases hpieces with
        | nil =>
            have hnil : x ++ rest = [] := hrest.symm
            exact absurd (List.append_eq_nil_iff.mp hnil).1 hx
        | @cons _ q ps hcut hapart hpieces =>
            rw [written_cons] at hrest
            rcases write_cases done q.text with ⟨e, he, _, hwrite⟩ | ⟨_, hwrite⟩
            · -- it would contain a score, or end within one
              exfalso
              rw [hwrite] at hrest
              rcases append_cases hrest.symm with ⟨u, _, hscore, _⟩ | ⟨u, hscore, _⟩
              · obtain ⟨c, hc, hletter⟩ := (Option.any_eq_true _ _).mp hz
                rw [(hdone e he).isAlpha_of_mem
                  (hscore ▸ List.mem_append_left u (List.mem_of_getLast? hc))] at hletter
                cases hletter
              · exact hscores e he ((hscore ▸ List.prefix_append _ u).isInfix.trans hsub)
            · rw [hwrite] at hrest
              have hlast : q.text.getLast?.any Char.isAlpha = true →
                  ∀ q ∈ ps.head?, q.token.isOperand = false := by
                intro hletter
                obtain ⟨c, hc, hletter⟩ := (Option.any_eq_true _ _).mp hletter
                exact hapart (hcut.isOperand_of_mem (List.mem_of_getLast? hc) hletter)
              obtain ⟨rest', heq', hnext'⟩ := Leads.of_written hdone hpieces hlast hz
                (fun e he hscore => hscores e he (hscore.trans hsub)) ⟨rest, hrest, hnext⟩
              exact ⟨rest', by rw [spelling_cons, heq', List.append_assoc], hnext'⟩
      · cases x with
        | nil =>
            rw [List.append_nil] at hy ⊢
            have hends := endsOperand_spelling hpieces (hy hz)
            exact ⟨spelling ps, rfl, hends.any_isWordChar⟩
        | cons c x => exact ⟨c :: x ++ spelling ps, by rw [List.append_assoc], hnext⟩

end

/-! ## One turn -/

/-- It is the turn of `e`.  The names in front of it have had theirs, and no score of them occurs in
its name; and it does not begin in the text `cs` inside a known name whose turn is yet to come. -/
structure Turn (names : List String) (cs : List Char) (done : List Binding) (e : Binding) :
    Prop where
  ascii : ∀ c ∈ cs, c.toNat < 128
  known : ∀ m ∈ names, isPunctuated m = true ∧ IsLettered m.toList
  settled : ∀ d ∈ done, Insertable d
  self : Insertable e
  punctuated : isPunctuated e.name = true → e.name ∈ names
  earlier : ∀ m ∈ names, longerFirst m e.name = true → ∃ d ∈ done, d.name = m
  scores : ∀ d ∈ done, ¬ (printScore d.score).toList <:+: e.name.toList
  later : ∀ m ∈ names, longerFirst e.name m = true → ¬ RunsInto m.toList e.name.toList cs

/-- The piece `p` stands in the text `cs` behind `front` and before the pieces `ps`. -/
structure Place (names : List String) (cs front : List Char) (p : Piece) (ps : List Piece) :
    Prop where
  text : cs = front ++ (p.text ++ spelling ps)
  cut : CutsOff names front.getLast? (spelling ps) p
  apart : p.token.isOperand = true → ∀ q ∈ ps.head?, q.token.isOperand = false
  rest : Pieces names p.text.getLast? ps

/-- An operand behind a piece has the same sign in front of it, whatever is written in. -/
lemma Place.before_operand {names : List String} {cs front : List Char} {p q : Piece}
    {ps : List Piece} (h : Place names cs front p ps) {before : Option Char}
    (hbefore : p.token.isOperand = false → before = p.text.getLast?) (hq : q ∈ ps.head?)
    (hoperand : q.token.isOperand = true) :
    before = p.text.getLast? ∧ before.any isWordChar = false := by
  have hp : p.token.isOperand = false := by
    rw [Bool.eq_false_iff]
    intro hp
    rw [h.apart hp q hq] at hoperand
    cases hoperand
  obtain ⟨c, htext, hc⟩ := h.cut.exists_sign hp
  obtain ⟨hascii, _, hident, _⟩ := scan_sign hc
  rw [hbefore hp]
  exact ⟨rfl, by simp [htext, isWordChar_eq hascii, hident]⟩

section

variable {names : List String} {cs front : List Char} {done : List Binding} {e : Binding}
  {p : Piece} {ps : List Piece} (h : Turn names cs done e)
include h

/-- A known name that goes before the one in question has had its turn. -/
lemma Turn.not_earlier (hnone : ∀ d ∈ done, d.name.toList ≠ p.text) {m : String} (hm : m ∈ names)
    (htext : p.text = m.toList) : longerFirst m e.name = false := by
  rw [Bool.eq_false_iff]
  intro hlonger
  obtain ⟨d, hd, rfl⟩ := h.earlier m hm hlonger
  exact hnone d hd htext.symm

lemma Turn.ascii_place (hplace : Place names cs front p ps) :
    (∀ c ∈ front.getLast?, c.toNat < 128) ∧ ∀ c ∈ p.text ++ spelling ps, c.toNat < 128 := by
  refine ⟨fun c hc => h.ascii c ?_, fun c hc => h.ascii c ?_⟩ <;> rw [hplace.text]
  · exact List.mem_append_left _ (List.mem_of_getLast? hc)
  · exact List.mem_append_right _ hc

/-- A piece at the start of which the name stands is the name. -/
lemma Turn.text_eq_of_start (hplace : Place names cs front p ps)
    (hnone : ∀ d ∈ done, d.name.toList ≠ p.text) (hoperand : p.token.isOperand = true)
    (hstands : standsAsWord e.name.toList front.getLast? (p.text ++ spelling ps) = true) :
    p.text = e.name.toList := by
  obtain ⟨hfront, hascii⟩ := h.ascii_place hplace
  have hends : EndsOperand (spelling ps) :=
    endsOperand_spelling hplace.rest (hplace.apart hoperand)
  rcases hplace.cut.eq_or_earlier (fun m hm => (h.known m hm).1) (fun _ => hends) h.self.name
    h.punctuated hfront hascii hstands with heq | ⟨m, hm, htext, hlonger⟩
  · exact heq
  · rw [h.not_earlier hnone hm htext] at hlonger
    cases hlonger

/-- A piece inside which the name begins is the name. -/
lemma Turn.text_eq_of_inside (hplace : Place names cs front p ps)
    (hnone : ∀ d ∈ done, d.name.toList ≠ p.text) {x y : List Char} (hp : p.text = x ++ y)
    (hx : x ≠ []) (hy : y ≠ [])
    (hstands : standsAsWord e.name.toList x.getLast? (y ++ spelling ps) = true) :
    p.text = e.name.toList := by
  obtain ⟨hfront, hascii⟩ := h.ascii_place hplace
  obtain ⟨hedge, hleads⟩ := h.self.name.standsAsWord_iff.mp hstands
  have hletter : y.head?.any Char.isAlpha = true := by
    rw [hleads.head?_eq h.self.name.ne_nil hy]
    exact h.self.name.first
  obtain ⟨m, hm, htext, hstands'⟩ := hplace.cut.exists_known hp hx hedge hletter
  -- otherwise the turn of this known name is yet to come
  by_contra hne
  have hlater : longerFirst e.name m = true := by
    refine longerFirst_strictTotal.total (fun heq => hne ?_) (h.not_earlier hnone hm htext)
    rw [htext, heq]
  refine h.later m hm hlater ?_
  rw [standsAt_eq (h.known m hm).2 hfront hascii, hp, List.append_assoc] at hstands'
  have hlast : (front ++ x).getLast? = x.getLast? := List.getLast?_append_of_ne_nil front hx
  rw [hplace.text, hp, List.append_assoc, ← List.append_assoc front]
  refine runsInto_of_append hx ?_ hstands' (by rwa [hlast])
    (List.append_ne_nil_of_left_ne_nil hy _)
  rw [← htext, hp, List.length_append]
  exact Nat.lt_add_of_pos_right (List.length_pos_of_ne_nil hy)

/-- **The name stands nowhere but at pieces.**  Where it stands in the text with scores written in,
at `y` within what is written for a piece, this piece is the name. -/
lemma Turn.text_eq (hplace : Place names cs front p ps) {before' : Option Char}
    (hbefore : p.token.isOperand = true → before' = front.getLast?)
    {x y : List Char} (hp : write done p.text = x ++ y) (hy : y ≠ [])
    (hstands : standsAsWord e.name.toList (x.getLast?.or before') (y ++ written done ps) = true) :
    p.text = e.name.toList ∧ ∀ d ∈ done, d.name.toList ≠ p.text := by
  have hname := h.self.name
  obtain ⟨hedge, hleads⟩ := hname.standsAsWord_iff.mp hstands
  obtain ⟨c, w, hcons, hletter⟩ := hname.exists_cons
  have hmem : c ∈ write done p.text := by
    have hhead := hleads.head?_eq hname.ne_nil hy
    rw [hcons, List.head?_cons] at hhead
    rw [hp]
    exact List.mem_append_right x (List.mem_of_head? hhead)
  rcases write_cases done p.text with ⟨d, hd, _, hwrite⟩ | ⟨hnone, hwrite⟩
  · rw [(h.settled d hd).isAlpha_of_mem (hwrite ▸ hmem)] at hletter
    cases hletter
  · rw [hwrite] at hp hmem
    have hoperand : p.token.isOperand = true := hplace.cut.isOperand_of_mem hmem hletter
    have hleads' : Leads e.name.toList (y ++ spelling ps) :=
      hleads.of_written h.settled hplace.rest (fun _ => hplace.apart hoperand) hname.last h.scores
    refine ⟨?_, hnone⟩
    by_cases hx : x = []
    · subst hx
      obtain rfl : p.text = y := hp
      rw [List.getLast?_nil, Option.none_or, hbefore hoperand] at hedge
      exact h.text_eq_of_start hplace hnone hoperand (hname.standsAsWord_iff.mpr ⟨hedge, hleads'⟩)
    · obtain ⟨b, hb⟩ : ∃ b, x.getLast? = some b := ⟨_, List.getLast?_eq_some_getLast hx⟩
      rw [hb, Option.some_or, ← hb] at hedge
      exact h.text_eq_of_inside hplace hnone hp hx hy (hname.standsAsWord_iff.mpr ⟨hedge, hleads'⟩)

/-- **One turn**, from any piece on: the score is written in the place of the pieces that are the
name. -/
lemma Turn.replaceWhere_written : ∀ (front : List Char) {ps : List Piece} {before' : Option Char},
    Pieces names front.getLast? ps → cs = front ++ spelling ps →
    (∀ p ∈ ps.head?, p.token.isOperand = true →
      before' = front.getLast? ∧ before'.any isWordChar = false) →
    replaceWhere (standsAsWord e.name.toList) e.name.toList.length (printScore e.score).toList 0
      before' (written done ps) = written (done ++ [e]) ps
  | _, [], _, _, _, _ => rfl
  | front, p :: ps, before', .cons hcut hapart hpieces, hcs, hbefore => by
      have hlettered : ∀ d ∈ done, IsLettered d.name.toList := fun d hd => (h.settled d hd).name
      have hplace : Place names cs front p ps := ⟨hcs, hcut, hapart, hpieces⟩
      have hnonempty : p.text ≠ [] := hcut.text_ne_nil fun m hm => (h.known m hm).2.ne_nil
      have hlast : (front ++ p.text).getLast? = p.text.getLast? :=
        List.getLast?_append_of_ne_nil front hnonempty
      have hrest : ∀ before, (p.token.isOperand = false → before = p.text.getLast?) →
          replaceWhere (standsAsWord e.name.toList) e.name.toList.length
            (printScore e.score).toList 0 before (written done ps) = written (done ++ [e]) ps := by
        intro before hsign
        refine Turn.replaceWhere_written (front ++ p.text) (by rwa [hlast])
          (by rw [hcs, spelling_cons, List.append_assoc]) fun q hq hoperand => ?_
        rw [hlast]
        exact hplace.before_operand hsign hq hoperand
      rw [written_cons, written_cons]
      by_cases hname : p.text = e.name.toList ∧ ∀ d ∈ done, d.name.toList ≠ p.text
      · -- the piece is the name, and stands between signs
        obtain ⟨htext, hnone⟩ := hname
        obtain ⟨c, w, hcons, hletter⟩ := h.self.name.exists_cons
        have hoperand : p.token.isOperand = true :=
          hcut.isOperand_of_mem (by rw [htext, hcons]; exact List.mem_cons_self) hletter
        have hends := endsOperand_written hlettered hpieces (hapart hoperand)
        have hstands :
            standsAsWord e.name.toList before' (e.name.toList ++ written done ps) = true :=
          h.self.name.standsAsWord_iff.mpr
            ⟨(hbefore p rfl hoperand).2, written done ps, rfl, hends.any_isWordChar⟩
        rw [write_append_of_notMem hnone, write_of_notMem hnone, htext,
          replaceWhere_occurrence _ h.self.name.ne_nil rfl hstands, hrest]
        · simp [write]
        · rw [hoperand]
          exact fun hfalse => absurd hfalse (by simp)
      · rw [write_append_of_ne hname, replaceWhere_of_not_occurs, hrest]
        · intro hp
          obtain ⟨c, htext, hc⟩ := hcut.exists_sign hp
          rw [htext, write_sign hlettered hc]
          rfl
        · intro x y hp hy
          rw [Bool.eq_false_iff]
          exact fun hstands => hname
            (h.text_eq hplace (fun hp => (hbefore p rfl hp).1) hp hy hstands)

end

/-! ## All turns -/

lemma mem_written {done : List Binding} (hdone : ∀ d ∈ done, Insertable d) {ps : List Piece}
    {c : Char} (hc : c ∈ written done ps) : isNumberChar c = true ∨ c ∈ spelling ps := by
  obtain ⟨p, hp, hc⟩ := List.mem_flatMap.mp hc
  rcases write_cases done p.text with ⟨d, hd, _, hwrite⟩ | ⟨_, hwrite⟩
  · exact Or.inl ((hdone d hd).numeral.1 c (hwrite ▸ hc))
  · exact Or.inr (List.mem_flatMap.mpr ⟨p, hp, hwrite ▸ hc⟩)

section

variable {names : List String} {ps : List Piece} (hpieces : Pieces names none ps)
  (hopen : '[' ∉ spelling ps)
include hpieces hopen

/-- **One turn**: without brackets only the bare name is replaced. -/
lemma Turn.substituteOne_written {done : List Binding} {e : Binding}
    (h : Turn names (spelling ps) done e) :
    substituteOne (written done ps) e = written (done ++ [e]) ps := by
  have hbracket : '[' ∉ written done ps := by
    intro hmem
    rcases mem_written h.settled hmem with hnumber | hmem
    · exact absurd hnumber (by decide)
    · exact hopen hmem
  have hkeep : replaceAll ('[' :: e.name.toList ++ [']']) (printScore e.score).toList
      (written done ps) = written done ps := by
    have happend : replaceAll (bracketOf e.name.toList) (printScore e.score).toList
        (written done ps ++ []) = written done ps ++ [] := replaceAll_append [] hbracket
    simpa [bracketOf] using happend
  have hnumber : e.name.toList.all isNumberChar = false := by
    obtain ⟨c, w, hcons, hletter⟩ := h.self.name.exists_cons
    rw [Bool.eq_false_iff, ne_eq, List.all_eq_true]
    intro hall
    rw [isAlpha_of_isNumberChar (hall c (hcons ▸ List.mem_cons_self))] at hletter
    cases hletter
  simp only [substituteOne, hkeep, hnumber, Bool.false_eq_true, if_false]
  exact h.replaceWhere_written [] hpieces rfl fun _ _ _ => ⟨rfl, rfl⟩

/-- **All turns**: the scores end up in the place of the pieces that are their names. -/
theorem foldl_substituteOne {all : List Binding} (hturns : ∀ done e rest, all = done ++ e :: rest →
    Turn names (spelling ps) done e) : ∀ (es done : List Binding), all = done ++ es →
      es.foldl substituteOne (written done ps) = written all ps
  | [], done, hall => by rw [List.foldl_nil, hall, List.append_nil]
  | e :: es, done, hall => by
      rw [List.foldl_cons, (hturns done e es hall).substituteOne_written hpieces hopen]
      exact foldl_substituteOne hturns es (done ++ [e]) (by rw [hall, List.append_assoc]; rfl)

end

end Markbook
