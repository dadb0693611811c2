import Markbook.Formula.Printer
import Markbook.Proofs.Formula.Leaves

/-!
# A lenient reading only puts in

The run of a lenient reading is mended along with its derivation, so whatever it takes from the text
belongs to a grammatical formula with the same tree.  Nothing is put into a text that is grammatical
already: what a derivation counts is to be found in its tree, or in the other parenthesis.

* `balanced_of_derives` — parentheses of derived tokens.
* `Mended.eq_of_counts` — tokens with as many numbers and closing parentheses as were there.
* `lenient_iff_recovery` — **the tree of a lenient reading**, and what becomes of a grammatical
  text.
-/

namespace Markbook

/-! ## What derived tokens count -/

/-- Every parenthesis that is opened is closed. -/
lemma balanced_of_derives {part : Part} {n : Nat} {ts : List Token} {fs : List Formula}
    (h : Derives part n ts fs) : ts.count .leftParen = ts.count .rightParen := by
  induction h with
  | sum _ hop _ ih ih' | product _ hop _ ih ih' =>
      obtain ⟨_, hleft, hright⟩ := number?_of_sign hop
      simp [hleft, hright, ih, ih']
  | _ => simp_all

/-! ## What is put in -/

namespace Mended

variable {mode : Mode} {rest us vs : List Token}

/-- Nothing is dropped, changed or put in another place. -/
lemma sublist (h : Mended mode rest us vs) : us.Sublist vs := by
  induction h with
  | done => exact List.Sublist.slnil
  | keep _ ih => exact ih.cons_cons _
  | operand _ _ _ ih => exact ih.cons _
  | closing _ _ _ ih => exact ih.cons _

lemma count_leftParen (h : Mended mode rest us vs) :
    vs.count .leftParen = us.count .leftParen := by
  induction h with
  | done => rfl
  | keep _ ih => simp [List.count_cons, ih]
  | operand _ _ _ ih => simpa using ih
  | closing _ _ _ ih => simpa using ih

/-- If there are as many numbers and closing parentheses as before, nothing was put in. -/
lemma eq_of_counts (h : Mended mode rest us vs)
    (hnumbers : (vs.filterMap Token.number?).length = (us.filterMap Token.number?).length)
    (hclosing : vs.count .rightParen = us.count .rightParen) : vs = us := by
  induction h with
  | done => rfl
  | @keep t us vs _ ih =>
      rw [ih]
      · cases ht : t.number? <;> simp_all
      · simpa [List.count_cons] using hclosing
  | operand _ _ h ih =>
      have hle := (h.sublist.filterMap Token.number?).length_le
      simp only [List.filterMap_cons, Token.number?, List.length_cons] at hnumbers
      omega
  | closing _ _ h ih =>
      have hle := h.sublist.count_le .rightParen
      simp only [List.count_cons_self] at hclosing
      omega

/-- Nothing is put into tokens that have the same tree already. -/
lemma eq_of_derives {part : Part} {n m : Nat} {fs : List Formula} (h : Mended mode rest us vs)
    (hus : Derives part n us fs) (hvs : Derives part m vs fs) : vs = us := by
  refine h.eq_of_counts ?_ ?_
  · rw [← literalsAll_of_derives hus, ← literalsAll_of_derives hvs]
  · rw [← balanced_of_derives hvs, h.count_leftParen, balanced_of_derives hus]

end Mended

/-! ## Lenient readings -/

section Lenient

variable {names : List String} {text : String} {f g : Formula} {c : Cursor}

/-- A lenient reading succeeds wherever the parser stops. -/
lemma parseWith_lenient_iff : Formula.parseWith .lenient names text = .ok f ↔
    ∃ c, Parser.formula .lenient text.utf8ByteSize ⟨lexemes names text.toList, 0⟩ = .ok (f, c) := by
  rw [Formula.parseWith]
  cases Parser.formula .lenient text.utf8ByteSize ⟨lexemes names text.toList, 0⟩ with
  | error cause => simp
  | ok r => simp [Prod.ext_iff]

/-- What the parser has taken when it stops belongs to a grammatical formula. -/
lemma recovery_of_formula
    (h : Parser.formula .lenient text.utf8ByteSize ⟨lexemes names text.toList, 0⟩ = .ok (f, c)) :
    ∃ used whole, Recovery names text f used (tokensOf c.rest) whole := by
  obtain ⟨used, whole, hsplit, hmended, hgrammatical⟩ := mended_of_formula h
  exact ⟨used, whole, hsplit, ⟨c.rest, c.operators, rfl, h⟩, hmended, hgrammatical⟩

/-- The parser takes the whole of a grammatical text. -/
lemma formula_of_grammatical (h : Grammatical (tokens names text) f) :
    Parser.formula .lenient text.utf8ByteSize ⟨lexemes names text.toList, 0⟩ =
      .ok (f, ⟨[], f.operators⟩) :=
  (outcome_of_derives h.1).eq_ok (Nat.lt_irrefl _) (Nat.not_lt_of_le h.2)

/-- **A lenient reading only puts in.**  Its trees are those of grammatical formulas that the text
comes up to once operands and closing parentheses are put in where they are due, and once what
follows is left aside.  Nothing is put into a text that is grammatical already, and nothing of it is
left aside. -/
theorem lenient_iff_recovery (names : List String) (text : String) (f : Formula) :
    (Formula.parseWith .lenient names text = .ok f ↔
      ∃ used rest whole, Recovery names text f used rest whole) ∧
    (Grammatical (tokens names text) f → Formula.parseWith .lenient names text = .ok f ∧
      ∀ g used rest whole, Recovery names text g used rest whole →
        g = f ∧ rest = [] ∧ used = tokens names text ∧ whole = tokens names text) := by
  refine ⟨⟨fun h => ?_, ?_⟩, fun h => ⟨parseWith_lenient_of_grammatical h, ?_⟩⟩
  · obtain ⟨c, hc⟩ := parseWith_lenient_iff.mp h
    obtain ⟨used, whole, hrecovery⟩ := recovery_of_formula hc
    exact ⟨used, _, whole, hrecovery⟩
  · rintro ⟨used, rest, whole, hrecovery⟩
    obtain ⟨ls, k, _, hstop⟩ := hrecovery.stops
    exact parseWith_lenient_iff.mpr ⟨_, hstop⟩
  · intro g used rest whole hrecovery
    obtain ⟨ls, k, hrest, hstop⟩ := hrecovery.stops
    rw [formula_of_grammatical h] at hstop
    obtain ⟨rfl, rfl, rfl⟩ : f = g ∧ [] = ls ∧ f.operators = k := by simpa using hstop
    obtain rfl : [] = rest := hrest
    have hused : used = tokens names text := by simpa using hrecovery.split.symm
    subst hused
    exact ⟨rfl, rfl, rfl, hrecovery.mended.eq_of_derives h.1 hrecovery.grammatical.1⟩

/-- A result that passes a test is a success. -/
lemma exists_ok_of_any {ε α : Type} {x : Except ε α} {p : α → Prop} [DecidablePred p]
    (h : x.toOption.any (decide <| p ·) = true) : ∃ a, x = .ok a ∧ p a := by
  cases x with
  | error e => cases h
  | ok a => exact ⟨a, rfl, of_decide_eq_true h⟩

/-- An operand and a parenthesis are put in, and a number is left aside; and a grammatical text is
taken as it stands. -/
theorem recovery_of_unfinished :
    (∃ f used rest whole, f.print = "max((1+0),2)" ∧
      Recovery [] "max(1 +, 2 3" f used rest whole) ∧
    ∃ f, Grammatical (tokens [] "max(1, 2)") f ∧
      Formula.parseWith .lenient [] "max(1, 2)" = .ok f ∧
      ∀ g used rest whole, Recovery [] "max(1, 2)" g used rest whole →
        g = f ∧ rest = [] ∧ used = tokens [] "max(1, 2)" ∧ whole = tokens [] "max(1, 2)" := by
  constructor
  · obtain ⟨f, hread, hprint⟩ := exists_ok_of_any
      (x := Formula.parseWith .lenient [] "max(1 +, 2 3") (p := (·.print = "max((1+0),2)"))
      (by decide +kernel)
    obtain ⟨used, rest, whole, h⟩ := (lenient_iff_recovery _ _ f).1.mp hread
    exact ⟨f, used, rest, whole, hprint, h⟩
  · obtain ⟨f, hread, -⟩ := exists_ok_of_any
      (x := Formula.parseWith .strict [] "max(1, 2)") (p := (·.print = "max(1,2)"))
      (by decide +kernel)
    have hgrammatical := parseWith_strict_iff.mp hread
    exact ⟨f, hgrammatical, (lenient_iff_recovery _ _ f).2 hgrammatical⟩

end Lenient

end Markbook
