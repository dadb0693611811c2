import Markbook.Formula.Evaluation
import Markbook.Proofs.Formula.Cutting
import Markbook.Proofs.Formula.Recovery
import Markbook.Proofs.Formula.Strict

/-!
# What is left over behind a formula

A strict reading of a complete formula with something behind it fails and tells what is left over.
The text in front of that is a formula of its own, and its tree is what a lenient reading keeps.

A text can be cut in front of any of its tokens without changing those in front of the cut: a token
ends where the next one begins, so all that the scanner looked at, besides the characters of the
token, is one character behind it, and what it makes of a token that nothing follows is the same.
That is so for a scanner that knows no names.  A name that it knows could begin to stand on its own
where the text behind it is cut away.

* `plainNext_left` — a token is the same in a text that is cut behind it.
* `exists_cut` — the tokens in front of a lexeme are those of the text in front.
* `Trace.lenient_of_strict` — what a strict run does, a lenient one does too.
* `parse_of_trailing` — **what is left over, and what is kept**.
-/

namespace Markbook

/-! ## Cutting a text behind a token -/

lemma takeWhile_left {α : Type} {p : α → Bool} {u v : List α}
    (h : ((u ++ v).takeWhile p).length ≤ u.length) : u.takeWhile p = (u ++ v).takeWhile p := by
  rw [List.takeWhile_append] at h ⊢
  split_ifs at h ⊢ with hall
  · have hnil : v.takeWhile p = [] := by
      rw [List.length_append] at h
      exact List.length_eq_zero_iff.mp (by omega)
    rw [hnil, List.append_nil]
    exact (List.takeWhile_prefix p).eq_of_length hall
  · rfl

namespace Token

variable {c : Char} {u v : List Char}

lemma bracketed_left (h : (bracketed (u ++ v)).2 ≤ u.length) :
    bracketed u = bracketed (u ++ v) := by
  by_cases hopen : ((u ++ v).takeWhile (· != ']')).length = (u ++ v).length
  · -- without a closing bracket the token takes all there is
    simp only [bracketed, if_pos hopen] at h
    rw [List.length_append] at h
    obtain rfl : v = [] := List.length_eq_zero_iff.mp (by omega)
    rw [List.append_nil]
  · have hlength : ((u ++ v).takeWhile (· != ']')).length < u.length := by
      simpa only [bracketed, if_neg hopen, Nat.succ_le_iff] using h
    simp only [bracketed, takeWhile_left hlength.le, if_neg hopen, if_neg hlength.ne]

lemma wordFrom_left (h : (wordFrom c (u ++ v)).2 ≤ u.length) :
    wordFrom c u = wordFrom c (u ++ v) := by
  rw [wordFrom, wordFrom, takeWhile_left h]

lemma length_numberFrom {cs : List Char} (h : ¬ isWordAt c cs = true) :
    (numberFrom c cs).2 = (cs.takeWhile isNumberChar).length := by
  rw [numberFrom_of_not_word h]
  cases readNumeral? (c :: cs.takeWhile isNumberChar) <;> rfl

/-- A word that begins with digits goes on behind them. -/
lemma length_digits_lt {cs : List Char} (h : isWordAt c cs = true) :
    (cs.takeWhile isNumberChar).length < (cs.takeWhile isNameChar).length := by
  obtain ⟨_, ds, d, rest, rfl, hds, hname, hnot⟩ := exists_of_isWordAt h
  rw [takeWhile_append_eq (fun e he => (hds e he).1) (by simpa using hnot),
    List.takeWhile_append_of_pos fun e he => (hds e he).2]
  simp [hname]

lemma isWordAt_left (h : ((u ++ v).takeWhile isNumberChar).length < u.length) :
    isWordAt c u = isWordAt c (u ++ v) := by
  rw [isWordAt, isWordAt, takeWhile_left h.le, List.head?_drop, List.head?_drop,
    List.getElem?_append_left h]

lemma numberFrom_left (h : (numberFrom c (u ++ v)).2 ≤ u.length) :
    numberFrom c u = numberFrom c (u ++ v) := by
  by_cases hword : isWordAt c (u ++ v) = true
  · -- the word goes on behind the digits, so the cut is behind the character that tells
    rw [numberFrom_of_word hword] at h ⊢
    have hlength := Nat.lt_of_lt_of_le (length_digits_lt hword) h
    rw [numberFrom_of_word ((isWordAt_left hlength).trans hword), wordFrom_left h]
  · -- no character of a name follows the digits, and at the cut nothing does
    rw [length_numberFrom hword] at h
    have hleft : ¬ isWordAt c u = true := by
      rcases Nat.lt_or_eq_of_le h with hlt | heq
      · rwa [isWordAt_left hlt]
      · rw [isWordAt, takeWhile_left h, heq, List.drop_length]
        simp
    rw [numberFrom_of_not_word hword, numberFrom_of_not_word hleft, takeWhile_left h]

/-- **A token is the same in a text that is cut somewhere behind it.** -/
lemma plainNext_left (h : (plainNext c (u ++ v)).2 ≤ u.length) :
    plainNext c u = plainNext c (u ++ v) := by
  rw [plainNext] at h ⊢
  rw [plainNext]
  cases hsign : ofSign? c with
  | some t => rfl
  | none =>
      simp only [hsign] at h ⊢
      split_ifs at h ⊢
      · exact bracketed_left h
      · exact numberFrom_left h
      · exact wordFrom_left h
      · rfl

end Token

/-- **A text can be cut in front of a token.**  The induction is on the text; what is to be found in
front of the cut includes the characters that are still to be passed over. -/
lemma exists_cut {l : Lexeme} {ms : List Lexeme} : ∀ (cs : List Char) (within : Nat)
    (before : Option Char) (offset : Nat) (ls : List Lexeme),
      lexemesFrom [] within before offset cs = ls ++ l :: ms →
      ∃ u, cs = u ++ l.suffix ∧ l.suffix ≠ [] ∧ within ≤ u.length ∧
        tokensOf (lexemesFrom [] within before offset u) = tokensOf ls
  | [], _, _, _, ls, h => by simp [lexemesFrom] at h
  | c :: cs, within + 1, before, offset, ls, h => by
      rw [lexemesFrom] at h
      obtain ⟨u, rfl, hsuffix, hwithin, htokens⟩ := exists_cut cs _ _ _ ls h
      exact ⟨c :: u, rfl, hsuffix, Nat.succ_le_succ hwithin, by rwa [lexemesFrom]⟩
  | c :: cs, 0, before, offset, ls, h => by
      by_cases hblank : isBlank c = true
      · rw [lexemesFrom, if_pos hblank] at h
        obtain ⟨u, rfl, hsuffix, _, htokens⟩ := exists_cut cs _ _ _ ls h
        exact ⟨c :: u, rfl, hsuffix, Nat.zero_le _, by rwa [lexemesFrom, if_pos hblank]⟩
      · rw [lexemesFrom_cons hblank] at h
        cases ls with
        | nil =>
            obtain ⟨rfl, _⟩ := List.cons.inj h
            exact ⟨[], rfl, List.cons_ne_nil _ _, Nat.zero_le _, by simp [lexemesFrom]⟩
        | cons k ls =>
            obtain ⟨rfl, hrest⟩ := List.cons.inj h
            obtain ⟨u, rfl, hsuffix, hwithin, htokens⟩ := exists_cut cs _ _ _ ls hrest
            refine ⟨c :: u, rfl, hsuffix, Nat.zero_le _, ?_⟩
            rw [lexemesFrom_cons hblank, Token.plainNext_left hwithin, tokensOf, List.map_cons]
            exact congrArg _ htokens

/-! ## Strict and lenient runs -/

lemma Closes.lenient_of_strict {ls ms : List Lexeme} (h : Closes .strict ls ms) :
    Closes .lenient ls ms := by
  cases h with
  | closed hl => exact .closed hl
  | missing hmode _ => cases hmode

/-- **What a strict run does, a lenient one does too.** -/
lemma Trace.lenient_of_strict {phase : Phase} {n : Nat} {ls ns : List Lexeme} {fs : List Formula}
    (h : Trace .strict phase n ls fs ns) : Trace .lenient phase n ls fs ns := by
  induction h with
  | chain _ _ ih ih' => exact .chain ih ih'
  | operator hop _ _ ih ih' => exact .operator hop ih ih'
  | chainEnd hop => exact .chainEnd hop
  | plus hl _ ih => exact .plus hl ih
  | minus hl _ ih => exact .minus hl ih
  | parentheses hl _ hclose ih => exact .parentheses hl ih hclose.lenient_of_strict
  | number hl => exact .number hl
  | name hl => exact .name hl
  | word hl hfront => exact .word hl hfront
  | call hl hp _ hclose ih => exact .call hl hp ih hclose.lenient_of_strict
  | missing hmode _ => cases hmode
  | noArguments hfront => exact .noArguments hfront
  | arguments hfront _ _ ih ih' => exact .arguments hfront ih ih'
  | moreArguments hl _ _ ih ih' => exact .moreArguments hl ih ih'
  | argumentsEnd hfront => exact .argumentsEnd hfront

/-- The lenient parser stops where the strict one does, with the same tree. -/
lemma formula_lenient_of_strict {size : Nat} {ls : List Lexeme} {f : Formula} {c : Cursor}
    (h : Parser.formula .strict size ⟨ls, 0⟩ = .ok (f, c)) :
    Parser.formula .lenient size ⟨ls, 0⟩ = .ok (f, c) := by
  have hrun := Parser.sound_expression (Parser.sound_factor maxNesting) _ _ _ h
  have houtcome : Parser.Outcome (maxNesting < maxNesting) (maxOperators < c.operators) f c
      (Parser.formula .lenient size ⟨ls, 0⟩) :=
    Parser.ofPhase_chain_iff.mp (Parser.outcome_of_trace hrun.trace.lenient_of_strict maxNesting
      ls.length 0 c.operators (Nat.le_refl _) hrun.counted)
  exact houtcome.eq_ok (Nat.lt_irrefl _) (Nat.not_lt_of_le (hrun.limited (Nat.zero_le _)))

/-! ## What is left over -/

namespace Formula

variable {names : List String} {text rest : String}

/-- Something is left over where the parser stops in front of it. -/
lemma exists_of_trailing (h : parseWith .strict names text = .error (.trailing rest)) :
    ∃ f l ls k, Parser.formula .strict text.utf8ByteSize ⟨lexemes names text.toList, 0⟩ =
      .ok (f, ⟨l :: ls, k⟩) ∧ rest = String.ofList l.suffix := by
  rw [parseWith] at h
  cases hrun : Parser.formula .strict text.utf8ByteSize ⟨lexemes names text.toList, 0⟩ with
  | error cause =>
      simp only [hrun] at h
      cases h
  | ok r =>
      obtain ⟨f, ls, k⟩ := r
      simp only [hrun] at h
      cases ls with
      | nil => cases h
      | cons l ls =>
          obtain rfl : String.ofList l.suffix = rest := by simpa using h
          exact ⟨f, l, ls, k, rfl, rfl⟩

/-- **What is left over, and what is kept.**  If a strict reading complains about something left
over, then that is the end of the text and not empty, and the text in front of it is a formula.  A
lenient reading of the whole text keeps the tree of this formula, so its value is that of the text
in front. -/
theorem parse_of_trailing (h : parse .strict text = .error (.trailing rest)) :
    rest ≠ "" ∧ ∃ front f, text = front ++ rest ∧ parse .strict front = .ok f ∧
      parse .lenient text = .ok f ∧
      evaluateExpression .lenient text = evaluateExpression .lenient front := by
  obtain ⟨f, l, ls, k, hrun, rfl⟩ := exists_of_trailing h
  obtain ⟨us, vs, hus, hmended, hgrammatical⟩ := mended_of_run hrun
  obtain ⟨u, hsplit, hsuffix, _, htokens⟩ := exists_cut text.toList 0 none 0 us hus
  have hfront : tokens [] (String.ofList u) = tokensOf us := by
    rw [tokens, String.toList_ofList]
    exact htokens
  have hstrict : parse .strict (String.ofList u) = .ok f := by
    rw [hmended.eq_of_strict, ← hfront] at hgrammatical
    exact parseWith_strict_iff.mpr hgrammatical
  have hlenient : parse .lenient text = .ok f :=
    parseWith_lenient_iff.mpr ⟨_, formula_lenient_of_strict hrun⟩
  have hkept : parse .lenient (String.ofList u) = .ok f :=
    parseWith_lenient_of_grammatical (parseWith_strict_iff.mp hstrict)
  refine ⟨by simpa using hsuffix, String.ofList u, f, ?_, hstrict, hlenient, ?_⟩
  · rw [← String.ofList_append, ← hsplit, String.ofList_toList]
  · rw [evaluateExpression, evaluateExpression, hlenient, hkept]

/-- A number with a word right behind it, after blanks and brackets. -/
theorem parse_of_trailing_word :
    let text := "[Lab 1] * 2.5x - 1"
    parse .strict text = .error (.trailing "x - 1") ∧
      "x - 1" ≠ "" ∧ ∃ front f, text = front ++ "x - 1" ∧ parse .strict front = .ok f ∧
        parse .lenient text = .ok f ∧
        evaluateExpression .lenient text = evaluateExpression .lenient front := by
  intro text
  have hrest : (match parse .strict text with
      | .error (.trailing rest) => rest
      | _ => "") = "x - 1" := by decide +kernel
  have htrailing : parse .strict text = .error (.trailing "x - 1") := by
    split at hrest
    · next rest hparse => rw [hparse, hrest]
    · exact absurd hrest (by decide)
  exact ⟨htrailing, parse_of_trailing htrailing⟩

end Formula

end Markbook
