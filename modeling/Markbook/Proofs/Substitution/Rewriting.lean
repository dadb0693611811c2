import Markbook.Formula.Substitution
import Markbook.Proofs.Formula.Spelling

/-!
# Rewriting a text

A score is written into a text by two rewritings, one for the bracketed form of a name and one for
its bare form.  Both scan the text from the left, so on the face of it what becomes of one part
could depend on the parts in front of it.  It does not: brackets cannot overlap, and bare names
stand between edges of words, so a text can be rewritten part by part.

* `replaceWhere_occurrence`, `replaceWhere_of_not_occurs` — a part that occurs and one in which
  nothing does.
* `replaceAll_brackets`, `replaceAll_append` — the bracketed form.
* `replaceWord_append`, `replaceWord_cons` — the bare form, at the edges of words.
* `replaceWord_word`, `replaceWord_of_notMem` — within a word.
-/

namespace Markbook

/-! ## Parts of a text -/

section

variable {occurs : Option Char → List Char → Bool} {length : Nat} {new : List Char}

/-- The rest of an occurrence is passed over. -/
lemma replaceWhere_within : ∀ (u v : List Char) (c : Char),
    replaceWhere occurs length new u.length (some c) (u ++ v) =
      replaceWhere occurs length new 0 (c :: u).getLast? v
  | [], _, _ => rfl
  | d :: u, v, c => by
      rw [List.length_cons, List.cons_append, replaceWhere, List.getLast?_cons_cons]
      exact replaceWhere_within u v d

/-- An occurrence is replaced. -/
lemma replaceWhere_occurrence {u : List Char} (v : List Char) {before : Option Char} (hu : u ≠ [])
    (hlength : u.length = length) (hoccurs : occurs before (u ++ v) = true) :
    replaceWhere occurs length new 0 before (u ++ v) =
      new ++ replaceWhere occurs length new 0 u.getLast? v := by
  obtain ⟨c, u, rfl⟩ := List.exists_cons_of_ne_nil hu
  subst hlength
  rw [List.cons_append] at hoccurs ⊢
  rw [replaceWhere, if_pos hoccurs, List.length_cons, Nat.add_sub_cancel, replaceWhere_within]

/-- A part in which nothing occurs stays. -/
lemma replaceWhere_of_not_occurs : ∀ (u v : List Char) (before : Option Char),
    (∀ x y, u = x ++ y → y ≠ [] → occurs (x.getLast?.or before) (y ++ v) = false) →
      replaceWhere occurs length new 0 before (u ++ v) =
        u ++ replaceWhere occurs length new 0 (u.getLast?.or before) v
  | [], _, _, _ => rfl
  | c :: u, v, before, h => by
      have hfirst := h [] (c :: u) rfl (List.cons_ne_nil c u)
      have hrest := replaceWhere_of_not_occurs u v (some c) fun x y hu hy => by
        have hstep := h (c :: x) y (by rw [hu, List.cons_append]) hy
        rwa [List.getLast?_cons, Option.some_or, ← Option.or_some] at hstep
      rw [List.getLast?_nil, Option.none_or] at hfirst
      rw [List.cons_append] at hfirst ⊢
      rw [replaceWhere, if_neg (by simp [hfirst]), hrest, List.getLast?_cons, Option.some_or,
        ← Option.or_some]
      rfl

lemma replaceWhere_eq_self {u : List Char} (before : Option Char)
    (h : ∀ x y, u = x ++ y → y ≠ [] → occurs (x.getLast?.or before) y = false) :
    replaceWhere occurs length new 0 before u = u := by
  have hkeep : replaceWhere occurs length new 0 before (u ++ []) = u ++ [] :=
    replaceWhere_of_not_occurs u [] before fun x y hu hy => by rw [List.append_nil, h x y hu hy]
  simpa using hkeep

/-- What is written instead of a name is made of the old characters and of the new ones. -/
lemma mem_replaceWhere {c : Char} : ∀ {cs : List Char} {within : Nat} {before : Option Char},
    c ∈ replaceWhere occurs length new within before cs → c ∈ new ∨ c ∈ cs
  | [], _, _, h => by simp [replaceWhere] at h
  | d :: cs, within + 1, _, h => by
      rw [replaceWhere] at h
      exact (mem_replaceWhere h).imp_right (List.mem_cons_of_mem d)
  | d :: cs, 0, _, h => by
      rw [replaceWhere] at h
      split_ifs at h
      · rcases List.mem_append.mp h with h | h
        · exact Or.inl h
        · exact (mem_replaceWhere h).imp_right (List.mem_cons_of_mem d)
      · rcases List.mem_cons.mp h with rfl | h
        · exact Or.inr List.mem_cons_self
        · exact (mem_replaceWhere h).imp_right (List.mem_cons_of_mem d)

end

/-! ## Bracketed names -/

section

variable {old new : List Char}

/-- Where every occurrence is replaced, it does not matter what stands in front. -/
lemma replaceWhere_prefix : ∀ (cs : List Char) (within : Nat) (before : Option Char),
    replaceWhere (fun _ cs => old.isPrefixOf cs) old.length new within before cs =
      replaceAll old new (cs.drop within)
  | [], within, _ => by simp [replaceAll, replaceWhere]
  | c :: cs, 0, _ => by rw [List.drop_zero, replaceAll, replaceWhere, replaceWhere]
  | c :: cs, within + 1, _ => by
      rw [replaceWhere, List.drop_succ_cons]
      exact replaceWhere_prefix cs within (some c)

lemma replaceAll_cons {c : Char} {cs : List Char} (h : ¬ old <+: c :: cs) :
    replaceAll old new (c :: cs) = c :: replaceAll old new cs := by
  rw [replaceAll, replaceWhere, if_neg (by simpa using h), replaceWhere_prefix, List.drop_zero]

lemma replaceAll_prefix (cs : List Char) (h : old ≠ []) :
    replaceAll old new (old ++ cs) = new ++ replaceAll old new cs := by
  cases old with
  | nil => exact absurd rfl h
  | cons c old =>
      rw [replaceAll, List.cons_append, replaceWhere, if_pos (by simp), replaceWhere_prefix]
      simp

end

def bracketOf (name : List Char) : List Char :=
  '[' :: name ++ [']']

variable {name new : List Char}

/-- A text without an opening bracket stays as it is. -/
lemma replaceAll_append : ∀ {u : List Char} (v : List Char), '[' ∉ u →
    replaceAll (bracketOf name) new (u ++ v) = u ++ replaceAll (bracketOf name) new v
  | [], _, _ => rfl
  | c :: u, v, h => by
      rw [List.mem_cons, not_or] at h
      have hstart : ¬ bracketOf name <+: c :: (u ++ v) := by
        intro hstart
        exact h.1 (List.cons_prefix_cons.mp hstart).1
      rw [List.cons_append, replaceAll_cons hstart, replaceAll_append v h.2, List.cons_append]

/-- The parts in front of the first closing bracket are the same. -/
lemma eq_of_append_closing {x y u v : List Char} (hx : ']' ∉ x) (hu : ']' ∉ u)
    (h : x ++ ']' :: y = u ++ ']' :: v) : x = u := by
  have hne : ∀ {w : List Char}, ']' ∉ w → ∀ c ∈ w, (c != ']') = true := by
    intro w hw c hc
    simp only [bne_iff_ne, ne_eq]
    rintro rfl
    exact hw hc
  have htake := congrArg (List.takeWhile (· != ']')) h
  rwa [takeWhile_append_eq (hne hx) (by simp), takeWhile_append_eq (hne hu) (by simp)] at htake

/-- **A bracketed name is replaced if it is the name in question**, and the text behind it is
rewritten on its own. -/
lemma replaceAll_brackets {text : List Char} (v : List Char) (hname : ']' ∉ name)
    (htext : IsBracketed text) : replaceAll (bracketOf name) new (bracketOf text ++ v) =
      (if text = name then new else bracketOf text) ++ replaceAll (bracketOf name) new v := by
  split_ifs with heq
  · rw [heq]
    exact replaceAll_prefix v (by simp [bracketOf])
  · have hstart : ¬ bracketOf name <+: '[' :: (text ++ [']'] ++ v) := by
      rintro ⟨w, hw⟩
      refine heq (eq_of_append_closing (y := v) (v := w) htext.closing hname ?_)
      simpa [bracketOf] using hw.symm
    have hrest : '[' ∉ text ++ [']'] := by simp [htext.opening]
    have htext' : bracketOf text ++ v = '[' :: (text ++ [']'] ++ v) := rfl
    rw [htext', replaceAll_cons hstart, replaceAll_append v hrest]
    rfl

/-! ## Bare names -/

/-- The text ends, or goes on with a character that is not part of a word. -/
def EndsWord (v : List Char) : Prop :=
  ∀ c ∈ v.head?, isIdentifierChar c = false ∧ isWordChar c = false

lemma endsWord_nil : EndsWord [] := by
  simp [EndsWord]

lemma isWordChar_of_isIdentifierChar {c : Char} (h : isIdentifierChar c = true) :
    isWordChar c = true := by
  rw [isWordChar_eq (lt_of_isIdentifierChar h), h]

lemma IsIdentifier.ne_nil (h : IsIdentifier name) : name ≠ [] := by
  obtain ⟨c, hc, _⟩ := h.nonDigit
  exact List.ne_nil_of_mem hc

/-- A name does not begin where a word ends. -/
lemma IsIdentifier.not_prefix (h : IsIdentifier name) {v : List Char} (hv : EndsWord v) :
    ¬ name <+: v := by
  rintro ⟨w, rfl⟩
  obtain ⟨c, rest, rfl⟩ := List.exists_cons_of_ne_nil h.ne_nil
  have hc := (hv c rfl).1
  rw [h.chars c List.mem_cons_self] at hc
  cases hc

/-- A name between characters of identifiers stands on its own where it begins at the edge of a word
and ends at one. -/
lemma standsAsWord_iff_of_ends (hhead : name.head?.any isIdentifierChar = true)
    (hlast : name.getLast?.any isIdentifierChar = true) {before : Option Char} {cs : List Char} :
    standsAsWord name before cs = true ↔ name <+: cs ∧ before.any isWordChar = false ∧
      (cs.drop name.length).head?.any isWordChar = false := by
  obtain ⟨c, hc, hc'⟩ := (Option.any_eq_true _ _).mp hhead
  obtain ⟨d, hd, hd'⟩ := (Option.any_eq_true _ _).mp hlast
  simp only [standsAsWord, hc, hd, isWordEdge, Option.any_some, isNameChar_of_isIdentifierChar hc',
    isWordChar_of_isIdentifierChar hc', isNameChar_of_isIdentifierChar hd',
    isWordChar_of_isIdentifierChar hd', Bool.not_true, Bool.false_or, Bool.and_eq_true,
    List.isPrefixOf_iff_prefix, bne_iff_ne, ne_eq, Bool.not_eq_true, Bool.true_eq, and_assoc]

/-- An identifier stands on its own where it begins at the edge of a word and ends at one. -/
lemma standsAsWord_iff (h : IsIdentifier name) {before : Option Char} {cs : List Char} :
    standsAsWord name before cs = true ↔ name <+: cs ∧ before.any isWordChar = false ∧
      (cs.drop name.length).head?.any isWordChar = false := by
  refine standsAsWord_iff_of_ends ?_ ?_
  · rw [List.head?_eq_some_head h.ne_nil]
    exact h.chars _ (List.head_mem _)
  · rw [List.getLast?_eq_some_getLast h.ne_nil]
    exact h.chars _ (List.getLast_mem _)

/-- What stands behind the end of a word does not matter for the text in front of it. -/
lemma standsAsWord_append (h : IsIdentifier name) {before : Option Char} {u v : List Char}
    (hv : EndsWord v) : standsAsWord name before (u ++ v) = standsAsWord name before u := by
  rw [Bool.eq_iff_iff, standsAsWord_iff h, standsAsWord_iff h]
  by_cases hu : name <+: u
  · obtain ⟨w, rfl⟩ := hu
    have hnext : (w ++ v).head?.any isWordChar = w.head?.any isWordChar := by
      cases w with
      | nil =>
          rw [List.nil_append, List.head?_nil, Option.any_none, Option.any_eq_false]
          intro c hc
          simpa using (hv c hc).2
      | cons c w => rfl
    rw [List.append_assoc, List.drop_left, List.drop_left, hnext]
    simp
  · have huv : ¬ name <+: u ++ v := by
      intro huv
      rcases List.prefix_or_prefix_of_prefix huv (List.prefix_append u v) with hstart | ⟨w, rfl⟩
      · exact hu hstart
      · -- the rest of the name would begin where the word ends
        cases w with
        | nil => exact hu (by simp)
        | cons c w =>
            obtain ⟨x, hx⟩ := (List.prefix_append_right_inj u).mp huv
            have hc := (hv c (by rw [← hx]; rfl)).1
            rw [h.chars c (by simp)] at hc
            cases hc
    simp [hu, huv]

section

variable (h : IsIdentifier name)

include h

/-- Only the edge of a word in front of the text matters. -/
lemma replaceWhere_congr {before before' : Option Char} (cs : List Char)
    (hbefore : before.any isWordChar = before'.any isWordChar) :
    replaceWhere (standsAsWord name) name.length new 0 before cs =
      replaceWhere (standsAsWord name) name.length new 0 before' cs := by
  cases cs with
  | nil => rfl
  | cons c cs =>
      have hstands : standsAsWord name before (c :: cs) = standsAsWord name before' (c :: cs) := by
        rw [Bool.eq_iff_iff, standsAsWord_iff h, standsAsWord_iff h, hbefore]
      rw [replaceWhere, replaceWhere, hstands]

lemma replaceWhere_append {v : List Char} (hv : EndsWord v) : ∀ (u : List Char) (within : Nat)
    (before : Option Char), within ≤ u.length →
      replaceWhere (standsAsWord name) name.length new within before (u ++ v) =
        replaceWhere (standsAsWord name) name.length new within before u ++
          replaceWord name new v
  | [], within, before, hwithin => by
      obtain rfl : within = 0 := by simpa using hwithin
      cases v with
      | nil => rfl
      | cons c v =>
          have hstands : ∀ before, standsAsWord name before (c :: v) = false := by
            intro before
            rw [Bool.eq_false_iff, ne_eq, standsAsWord_iff h]
            exact fun hstands => h.not_prefix hv hstands.1
          simp only [List.nil_append, replaceWord, replaceWhere, hstands, Bool.false_eq_true,
            if_false]
  | c :: u, within + 1, before, hwithin => by
      rw [List.cons_append, replaceWhere, replaceWhere]
      exact replaceWhere_append hv u within (some c) (by simpa using hwithin)
  | c :: u, 0, before, _ => by
      have hstands : standsAsWord name before (c :: (u ++ v)) = standsAsWord name before (c :: u) :=
        standsAsWord_append h (u := c :: u) hv
      rw [List.cons_append, replaceWhere, replaceWhere, hstands]
      split_ifs with hoccurs
      · have hlength : name.length - 1 ≤ u.length := by
          have hstart := ((standsAsWord_iff h).mp hoccurs).1.length_le
          simp only [List.length_cons] at hstart
          omega
        rw [replaceWhere_append hv u _ _ hlength, List.append_assoc]
      · rw [replaceWhere_append hv u 0 _ (Nat.zero_le _), List.cons_append]

/-- **A text is rewritten on its own up to the end of a word.** -/
lemma replaceWord_append (u : List Char) {v : List Char} (hv : EndsWord v) :
    replaceWord name new (u ++ v) = replaceWord name new u ++ replaceWord name new v :=
  replaceWhere_append h hv u 0 none (Nat.zero_le _)

/-- **A character that is not part of a word stays**, and the text behind it is rewritten on its
own. -/
lemma replaceWord_cons {c : Char} (v : List Char) (hc : isIdentifierChar c = false)
    (hword : isWordChar c = false) :
    replaceWord name new (c :: v) = c :: replaceWord name new v := by
  have hstands : standsAsWord name none (c :: v) = false := by
    rw [Bool.eq_false_iff, ne_eq, standsAsWord_iff h]
    refine fun hstands => h.not_prefix (fun d hd => ?_) hstands.1
    obtain rfl : c = d := by simpa using hd
    exact ⟨hc, hword⟩
  have hrest : replaceWhere (standsAsWord name) name.length new 0 (some c) v =
      replaceWord name new v := replaceWhere_congr h v (by simpa using hword)
  rw [replaceWord, replaceWhere, hstands, if_neg Bool.false_ne_true, hrest]

omit h in
lemma replaceWord_of_notMem {u : List Char} {d : Char} (hd : d ∈ name) (hu : d ∉ u) :
    replaceWord name new u = u := by
  refine replaceWhere_eq_self none ?_
  rintro x y rfl _
  rw [standsAsWord, Bool.and_assoc, Bool.and_eq_false_iff]
  left
  rw [Bool.eq_false_iff, ne_eq, List.isPrefixOf_iff_prefix]
  exact fun hstart => hu (List.mem_append_right x (hstart.subset hd))

/-- **A word is replaced if it is the name in question.**  A name begins in it at its first
character only, and does not end before the word does. -/
lemma replaceWord_word {u : List Char} (hu : ∀ c ∈ u, isIdentifierChar c = true) :
    replaceWord name new u = if u = name then new else u := by
  split_ifs with heq
  · subst heq
    have hstands : standsAsWord u none (u ++ []) = true :=
      (standsAsWord_iff h).mpr ⟨List.prefix_append u [], rfl, by simp⟩
    have hreplaced : replaceWord u new (u ++ []) = new ++ [] :=
      replaceWhere_occurrence [] h.ne_nil rfl hstands
    simpa using hreplaced
  · refine replaceWhere_eq_self none ?_
    rintro x y rfl _
    rw [Bool.eq_false_iff, ne_eq, standsAsWord_iff h]
    rintro ⟨⟨w, rfl⟩, hedge, hnext⟩
    cases hx : x.getLast? with
    | none =>
        obtain rfl := List.getLast?_eq_none_iff.mp hx
        cases w with
        | nil => exact heq (by simp)
        | cons d w =>
            have hd := hu d (by simp)
            simp [isWordChar_of_isIdentifierChar hd] at hnext
    | some b =>
        have hb := hu b (List.mem_append_left _ (List.mem_of_getLast? hx))
        simp [hx, isWordChar_of_isIdentifierChar hb] at hedge

end

end Markbook
