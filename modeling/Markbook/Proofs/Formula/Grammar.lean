import Markbook.Formula.Recovery
import Markbook.Proofs.Formula.Outcome

/-!
# The strict reading follows the grammar

A strict run takes exactly the tokens of a derivation, and along a derivation there is a run in
either mode.  With the two limits that makes the strict parser and the grammar the same thing, and
as the parser is a function, the grammar is unambiguous.

The grammar groups a chain of operators from the left: its rule for a sum has the longer sum in
front.  The parser takes the operators one by one with the value so far in hand.  So a derivation is
followed by saying what the run can go on with behind it.

* `mended_of_trace` — the tokens of a run are derived, with what a lenient run puts in.
* `Derives.traced` — along a derivation there is a run.
* `parseWith_strict_iff` — what a strict parse accepts, whatever names the scanner knows.
* `parse_strict_iff_grammatical` — the same for a text as it stands, with uniqueness.
* `parseWith_lenient_of_grammatical` — such texts are read leniently in the same way.
-/

namespace Markbook

/-! ## The operators of a level -/

/-- **The parser looks for the signs of the grammar.** -/
lemma Level.op?_eq_some {level : Level} {t : Token} {op : BinaryOp} :
    level.op? t = some op ↔ level.Sign t op := by
  constructor
  · intro h
    cases level <;> cases t <;> cases h <;> constructor
  · intro h
    cases h <;> rfl

/-! ## Runs are derived -/

/-- The part of the grammar that a level of precedence stands for. -/
def Level.part : Level → Part
  | sum => .expression
  | product => .term

/-- The part that an operand of a level stands for. -/
def Level.operandPart : Level → Part
  | sum => .term
  | product => .factor

lemma Derives.single {level : Level} {n : Nat} {ts : List Token} {f : Formula}
    (h : Derives level.operandPart n ts [f]) : Derives level.part n ts [f] := by
  cases level with
  | sum => exact .ofTerm h
  | product => exact .ofFactor h

lemma Derives.more {level : Level} {n : Nat} {ts us : List Token} {t : Token} {op : BinaryOp}
    {f g : Formula} (hf : Derives level.part n ts [f]) (hop : level.Sign t op)
    (hg : Derives level.operandPart n us [g]) :
    Derives level.part n (ts ++ t :: us) [.binary op f g] := by
  cases level with
  | sum => exact .sum hf hop hg
  | product => exact .product hf hop hg

abbrev tokensOf (ls : List Lexeme) : List Token :=
  ls.map (·.token)

/-- What the tokens `us` of a run are to the grammar.  Operators behind a value, and arguments
behind the first, go on from any tokens that are derived already. -/
def Phase.Derived (n : Nat) (fs : List Formula) (us : List Token) : Phase → Prop
  | .chain level => Derives level.part n us fs
  | .behind level left =>
    ∀ ts, Derives level.part n ts [left] → Derives level.part n (ts ++ us) fs
  | .factor => Derives .factor n us fs
  | .arguments => Derives .arguments n us fs
  | .moreArguments =>
    ∀ ts f, Derives .expression n ts [f] → Derives .arguments n (ts ++ us) (f :: fs)

lemma derived_operand {level : Level} {n : Nat} {fs : List Formula} {us : List Token} :
    level.operand.Derived n fs us ↔ Derives level.operandPart n us fs := by
  cases level <;> rfl

section Mended

variable {mode : Mode} {rest ts us vs ws : List Token} {t : Token}

lemma Mended.single : Mended mode rest [t] [t] :=
  .keep .done

lemma Mended.append (h : Mended mode (us ++ rest) ts vs) (h' : Mended mode rest us ws) :
    Mended mode rest (ts ++ us) (vs ++ ws) := by
  induction h with
  | done => exact h'
  | keep _ ih => exact .keep ih
  | operand hmode hfront _ ih => exact .operand hmode (by simpa using hfront) ih
  | closing hmode hfront _ ih => exact .closing hmode (by simpa using hfront) ih

/-- A strict reading puts nothing in. -/
lemma Mended.eq_of_strict (h : Mended .strict rest us vs) : vs = us := by
  induction h with
  | done => rfl
  | keep _ ih => rw [ih]
  | operand hmode _ _ _ => cases hmode
  | closing hmode _ _ _ => cases hmode

end Mended

lemma front_eq_headD (ls : List Lexeme) : front ls = (tokensOf ls).headD .eof := by
  cases ls <;> rfl

/-- A closing parenthesis is there or is put in. -/
lemma Closes.mended {mode : Mode} {ls ms : List Lexeme} (h : Closes mode ls ms) :
    ∃ us, ls = us ++ ms ∧ Mended mode (tokensOf ms) (tokensOf us) [.rightParen] := by
  cases h with
  | @closed l _ hl => exact ⟨[l], rfl, by simpa [hl] using Mended.single⟩
  | missing hmode hfront =>
      exact ⟨[], rfl, .closing hmode (by simpa [front_eq_headD] using hfront) .done⟩

/-- **The tokens of a run are derived**, with what the run puts in. -/
theorem mended_of_trace {mode : Mode} {phase : Phase} {n : Nat} {ls ns : List Lexeme}
    {fs : List Formula} (h : Trace mode phase n ls fs ns) :
    ∃ us vs, ls = us ++ ns ∧ Mended mode (tokensOf ns) (tokensOf us) vs ∧
      phase.Derived n fs vs := by
  induction h with
  | @chain level n ls ms ns f g _ _ ih ih' =>
      obtain ⟨us, vs, rfl, hmended, hvs⟩ := ih
      obtain ⟨us', vs', rfl, hmended', hvs'⟩ := ih'
      refine ⟨us ++ us', vs ++ vs', by simp, ?_, hvs' _ (derived_operand.mp hvs).single⟩
      simpa using Mended.append (by simpa using hmended) hmended'
  | @operator level n l ls ms ns op f g h hop _ _ ih ih' =>
      obtain ⟨us, vs, rfl, hmended, hvs⟩ := ih
      obtain ⟨us', vs', rfl, hmended', hvs'⟩ := ih'
      refine ⟨l :: us ++ us', l.token :: vs ++ vs', by simp, ?_, fun ts hts => ?_⟩
      · simpa using Mended.keep (Mended.append (by simpa using hmended) hmended')
      · simpa using hvs' _ (hts.more (Level.op?_eq_some.mp hop) (derived_operand.mp hvs))
  | chainEnd _ => exact ⟨[], [], rfl, .done, fun ts hts => by simpa using hts⟩
  | @plus n l ls ms f hl _ ih =>
      obtain ⟨us, vs, rfl, hmended, hvs⟩ := ih
      exact ⟨l :: us, _, rfl, by simpa [hl] using hmended.keep, Derives.plus hvs⟩
  | @minus n l ls ms f hl _ ih =>
      obtain ⟨us, vs, rfl, hmended, hvs⟩ := ih
      exact ⟨l :: us, _, rfl, by simpa [hl] using hmended.keep, Derives.minus hvs⟩
  | @parentheses n l ls ms ns f hl _ hclose ih =>
      obtain ⟨us, vs, rfl, hmended, hvs⟩ := ih
      obtain ⟨us', rfl, hmended'⟩ := hclose.mended
      refine ⟨l :: us ++ us', _, by simp, ?_, Derives.parentheses hvs⟩
      simpa [hl] using Mended.keep (Mended.append (by simpa using hmended) hmended')
  | @number n l ls x hl =>
      exact ⟨[l], _, rfl, by simpa [hl] using Mended.single, Derives.number⟩
  | @name n l ls m hl =>
      exact ⟨[l], _, rfl, by simpa [hl] using Mended.single, Derives.name⟩
  | @word n l ls text hl _ =>
      exact ⟨[l], _, rfl, by simpa [hl] using Mended.single, Derives.word⟩
  | @call n l p ls ms ns text fs hl hp _ hclose ih =>
      obtain ⟨us, vs, rfl, hmended, hvs⟩ := ih
      obtain ⟨us', rfl, hmended'⟩ := hclose.mended
      refine ⟨l :: p :: us ++ us', _, by simp, ?_, Derives.call hvs⟩
      simpa [hl, hp] using
        Mended.keep (Mended.keep (Mended.append (by simpa using hmended) hmended'))
  | @missing n ls hmode hfront =>
      exact ⟨[], _, rfl, .operand hmode (by simpa [front_eq_headD] using hfront) .done,
        Derives.number⟩
  | noArguments _ => exact ⟨[], [], rfl, .done, .noArgument⟩
  | @arguments n ls ms ns f fs _ _ _ ih ih' =>
      obtain ⟨us, vs, rfl, hmended, hvs⟩ := ih
      obtain ⟨us', vs', rfl, hmended', hvs'⟩ := ih'
      refine ⟨us ++ us', vs ++ vs', by simp, ?_, hvs' _ _ hvs⟩
      simpa using Mended.append (by simpa using hmended) hmended'
  | @moreArguments n l ls ms ns f fs hl _ _ ih ih' =>
      obtain ⟨us, vs, rfl, hmended, hvs⟩ := ih
      obtain ⟨us', vs', rfl, hmended', hvs'⟩ := ih'
      refine ⟨l :: us ++ us', .comma :: vs ++ vs', by simp, ?_, fun ts g hg => ?_⟩
      · simpa [hl] using Mended.keep (Mended.append (by simpa using hmended) hmended')
      · simpa using Derives.argument hg (hvs' _ _ hvs)
  | argumentsEnd _ =>
      exact ⟨[], [], rfl, .done, fun ts f hf => by simpa using Derives.lastArgument hf⟩

/-- What the parser takes belongs to a grammatical formula. -/
lemma mended_of_run {mode : Mode} {size : Nat} {ls : List Lexeme} {f : Formula} {c : Cursor}
    (h : Parser.formula mode size ⟨ls, 0⟩ = .ok (f, c)) :
    ∃ us vs, ls = us ++ c.rest ∧ Mended mode (tokensOf c.rest) (tokensOf us) vs ∧
      Grammatical vs f := by
  have hrun := Parser.sound_expression (Parser.sound_factor maxNesting) _ _ _ h
  obtain ⟨us, vs, hus, hmended, hderived⟩ := mended_of_trace hrun.trace
  have hoperators : f.operators ≤ maxOperators := by
    have hcounted := hrun.counted
    have hlimited := hrun.limited (Nat.zero_le _)
    simp only [operators_chain, Nat.add_zero, operatorsAll_singleton,
      Nat.zero_add] at hcounted hlimited
    omega
  exact ⟨us, vs, hus, hmended, hderived, hoperators⟩

/-- What the parser takes from a text, token by token. -/
lemma mended_of_formula {mode : Mode} {size : Nat} {names : List String} {text : String}
    {f : Formula} {c : Cursor}
    (h : Parser.formula mode size ⟨lexemes names text.toList, 0⟩ = .ok (f, c)) :
    ∃ us vs, tokens names text = us ++ tokensOf c.rest ∧ Mended mode (tokensOf c.rest) us vs ∧
      Grammatical vs f := by
  obtain ⟨us, vs, hus, hmended, hgrammatical⟩ := mended_of_run h
  exact ⟨tokensOf us, vs, by rw [tokens, hus, List.map_append], hmended, hgrammatical⟩

/-! ## Derivations are run through -/

/-- An operand begins with a token that can begin one. -/
lemma Derives.opens {part : Part} {n : Nat} {ts : List Token} {fs : List Formula}
    (h : Derives part n ts fs) (hpart : part ≠ .arguments) :
    ∃ t us, ts = t :: us ∧ t.opens = true := by
  induction h with
  | ofTerm _ ih => exact ih (by simp)
  | ofFactor _ ih => exact ih (by simp)
  | sum _ _ _ ih _ =>
      obtain ⟨t, us, rfl, ht⟩ := ih (by simp)
      exact ⟨t, _, rfl, ht⟩
  | product _ _ _ ih _ =>
      obtain ⟨t, us, rfl, ht⟩ := ih (by simp)
      exact ⟨t, _, rfl, ht⟩
  | plus _ _ => exact ⟨_, _, rfl, rfl⟩
  | minus _ _ => exact ⟨_, _, rfl, rfl⟩
  | parentheses _ _ => exact ⟨_, _, rfl, rfl⟩
  | number => exact ⟨_, _, rfl, rfl⟩
  | name => exact ⟨_, _, rfl, rfl⟩
  | word => exact ⟨_, _, rfl, rfl⟩
  | call _ _ => exact ⟨_, _, rfl, rfl⟩
  | noArgument => exact absurd rfl hpart
  | lastArgument _ _ => exact absurd rfl hpart
  | argument _ _ _ _ => exact absurd rfl hpart

/-- Can a chain of this level end before this token?  A word in front of a parenthesis would be the
name of a function, and a product goes before a sum. -/
def Level.endsAt : Level → Token → Prop
  | sum, t => t ≠ .leftParen ∧ product.op? t = none
  | product, t => t ≠ .leftParen

lemma endsAt_of_sign {level : Level} {t : Token} {op : BinaryOp} (h : level.Sign t op) :
    level.endsAt t := by
  cases h <;> simp [Level.endsAt, Level.op?]

/-- Tokens around a given one are those of lexemes around another. -/
lemma exists_of_tokensOf_around {us : List Lexeme} {ts vs : List Token} {t : Token}
    (h : tokensOf us = ts ++ t :: vs) :
    ∃ as l bs, us = as ++ l :: bs ∧ tokensOf as = ts ∧ l.token = t ∧ tokensOf bs = vs := by
  obtain ⟨as, bs', rfl, has, hbs'⟩ := List.map_eq_append_iff.mp h
  obtain ⟨l, bs, rfl, hl, hbs⟩ := List.map_eq_cons_iff.mp hbs'
  exact ⟨as, l, bs, rfl, has, hl, hbs⟩

lemma front_append_of_tokensOf {us rest : List Lexeme} {t : Token} {ts : List Token}
    (h : tokensOf us = t :: ts) : front (us ++ rest) = t := by
  obtain ⟨l, vs, rfl, hl, _⟩ := List.map_eq_cons_iff.mp h
  exact hl

/-- What begins with an operand does not begin with a closing parenthesis. -/
lemma front_ne_rightParen {us rest : List Lexeme}
    (h : ∃ t ts, tokensOf us = t :: ts ∧ t.opens = true) : front (us ++ rest) ≠ .rightParen := by
  obtain ⟨t, ts, hus, ht⟩ := h
  rw [front_append_of_tokensOf hus]
  rintro rfl
  cases ht

/-- A run along a derivation with the lexemes `us`.  A chain is followed by saying what the run can
go on with behind it. -/
def Part.Traced (mode : Mode) (n : Nat) (fs : List Formula) (us : List Lexeme) : Part → Prop
  | .expression => ∀ f ∈ fs, ∀ rest g ns, Level.sum.endsAt (front rest) →
    Trace mode (.behind .sum f) n rest [g] ns → Trace mode (.chain .sum) n (us ++ rest) [g] ns
  | .term => ∀ f ∈ fs, ∀ rest g ns, Level.product.endsAt (front rest) →
    Trace mode (.behind .product f) n rest [g] ns →
      Trace mode (.chain .product) n (us ++ rest) [g] ns
  | .factor => ∀ rest, front rest ≠ .leftParen → Trace mode .factor n (us ++ rest) fs rest
  | .arguments => ∀ rest, front rest = .rightParen → Trace mode .arguments n (us ++ rest) fs rest

namespace Part.Traced

variable {mode : Mode} {level : Level} {n : Nat} {f g : Formula} {gs : List Formula}
  {us vs rest : List Lexeme} {l r : Lexeme}

/-! ### Chains -/

lemma part_iff : Part.Traced mode n [f] us level.part ↔
    ∀ rest g ns, level.endsAt (front rest) → Trace mode (.behind level f) n rest [g] ns →
      Trace mode (.chain level) n (us ++ rest) [g] ns := by
  cases level <;> exact List.forall_mem_singleton

/-- An operand of a chain, up to a token at which the chain can end. -/
lemma operand (h : Part.Traced mode n [f] us level.operandPart)
    (hends : level.endsAt (front rest)) : Trace mode level.operand n (us ++ rest) [f] rest := by
  cases level with
  | sum => exact h f List.mem_cons_self rest f rest hends.1 (.chainEnd hends.2)
  | product => exact h rest hends

lemma single (level : Level) (h : Part.Traced mode n [f] us level.operandPart) :
    Part.Traced mode n [f] us level.part :=
  part_iff.mpr fun _ _ _ hends hbehind => .chain (h.operand hends) hbehind

lemma more (level : Level) {op : BinaryOp} (hf : Part.Traced mode n [f] us level.part)
    (hop : level.Sign l.token op) (hg : Part.Traced mode n [g] vs level.operandPart) :
    Part.Traced mode n [.binary op f g] (us ++ l :: vs) level.part := by
  refine part_iff.mpr fun rest h ns hends hbehind => ?_
  rw [List.append_assoc]
  exact part_iff.mp hf (l :: vs ++ rest) h ns (endsAt_of_sign hop)
    (.operator (Level.op?_eq_some.mpr hop) (hg.operand hends) hbehind)

/-- A whole expression, up to a token that cannot go on with it. -/
lemma expression_end (h : Part.Traced mode n [f] us .expression)
    (hends : Level.sum.endsAt (front rest)) (hop : Level.sum.op? (front rest) = none) :
    Trace mode (.chain .sum) n (us ++ rest) [f] rest :=
  h f List.mem_cons_self rest f rest hends (.chainEnd hop)

/-! ### Operands -/

lemma plus (hl : l.token = .plus) (h : Part.Traced mode n [f] us .factor) :
    Part.Traced mode (n + 1) [f] (l :: us) .factor :=
  fun rest hrest => .plus hl (h rest hrest)

lemma minus (hl : l.token = .minus) (h : Part.Traced mode n [f] us .factor) :
    Part.Traced mode (n + 1) [.negate f] (l :: us) .factor :=
  fun rest hrest => .minus hl (h rest hrest)

lemma parentheses (hl : l.token = .leftParen) (hr : r.token = .rightParen)
    (h : Part.Traced mode n [f] us .expression) :
    Part.Traced mode (n + 1) [f] (l :: us ++ [r]) .factor := by
  intro rest _
  have hinner : Trace mode (.chain .sum) n (us ++ r :: rest) [f] (r :: rest) :=
    h.expression_end (by simp [Level.endsAt, front, hr, Level.op?]) (by simp [front, hr, Level.op?])
  simpa using Trace.parentheses hl hinner (.closed hr)

lemma call {p : Lexeme} {text : String} {fs : List Formula} (hl : l.token = .word text)
    (hp : p.token = .leftParen) (hr : r.token = .rightParen)
    (h : Part.Traced mode n fs us .arguments) :
    Part.Traced mode (n + 1) [.call (lowerCase text) fs] (l :: p :: us ++ [r]) .factor := by
  intro rest _
  simpa using Trace.call hl hp (h (r :: rest) hr) (.closed hr)

/-! ### Arguments -/

lemma lastArgument (hfirst : ∃ t ts, tokensOf us = t :: ts ∧ t.opens = true)
    (h : Part.Traced mode n [f] us .expression) : Part.Traced mode n [f] us .arguments := by
  intro rest hrest
  have hinner : Trace mode (.chain .sum) n (us ++ rest) [f] rest :=
    h.expression_end (by simp [hrest, Level.endsAt, Level.op?]) (by simp [hrest, Level.op?])
  exact .arguments (front_ne_rightParen hfirst) hinner (.argumentsEnd (by simp [hrest]))

lemma argument (hfirst : ∃ t ts, tokensOf us = t :: ts ∧ t.opens = true) (hl : l.token = .comma)
    (h : Part.Traced mode n [f] us .expression)
    (h' : Part.Traced mode n (g :: gs) vs .arguments) :
    Part.Traced mode n (f :: g :: gs) (us ++ l :: vs) .arguments := by
  intro rest hrest
  have hinner : Trace mode (.chain .sum) n (us ++ (l :: vs ++ rest)) [f] (l :: vs ++ rest) :=
    h.expression_end (by simp [Level.endsAt, front, hl, Level.op?]) (by simp [front, hl, Level.op?])
  rw [List.append_assoc]
  -- behind its comma, a second argument is read as the first one is
  cases h' rest hrest with
  | arguments _ hsecond hmore =>
      exact .arguments (front_ne_rightParen hfirst) hinner (.moreArguments hl hsecond hmore)

end Part.Traced

/-- **Along a derivation there is a run**, in either mode. -/
theorem Derives.traced (mode : Mode) {part : Part} {n : Nat} {ts : List Token}
    {fs : List Formula} (h : Derives part n ts fs) :
    ∀ us, tokensOf us = ts → part.Traced mode n fs us := by
  induction h with
  | ofTerm _ ih => exact fun us hus => .single .sum (ih us hus)
  | ofFactor _ ih => exact fun us hus => .single .product (ih us hus)
  | sum _ hop _ ih ih' =>
      intro us hus
      obtain ⟨as, l, bs, rfl, has, rfl, hbs⟩ := exists_of_tokensOf_around hus
      exact Part.Traced.more .sum (ih as has) hop (ih' bs hbs)
  | product _ hop _ ih ih' =>
      intro us hus
      obtain ⟨as, l, bs, rfl, has, rfl, hbs⟩ := exists_of_tokensOf_around hus
      exact Part.Traced.more .product (ih as has) hop (ih' bs hbs)
  | plus _ ih =>
      intro us hus
      obtain ⟨l, vs, rfl, hl, hvs⟩ := List.map_eq_cons_iff.mp hus
      exact (ih vs hvs).plus hl
  | minus _ ih =>
      intro us hus
      obtain ⟨l, vs, rfl, hl, hvs⟩ := List.map_eq_cons_iff.mp hus
      exact (ih vs hvs).minus hl
  | parentheses _ ih =>
      intro us hus
      obtain ⟨as', bs, rfl, has', hbs⟩ := List.map_eq_append_iff.mp hus
      obtain ⟨l, as, rfl, hl, has⟩ := List.map_eq_cons_iff.mp has'
      obtain ⟨r, rfl, hr⟩ := List.map_eq_singleton_iff.mp hbs
      exact (ih as has).parentheses hl hr
  | number =>
      intro us hus rest _
      obtain ⟨l, rfl, hl⟩ := List.map_eq_singleton_iff.mp hus
      exact .number hl
  | name =>
      intro us hus rest _
      obtain ⟨l, rfl, hl⟩ := List.map_eq_singleton_iff.mp hus
      exact .name hl
  | word =>
      intro us hus rest hrest
      obtain ⟨l, rfl, hl⟩ := List.map_eq_singleton_iff.mp hus
      exact .word hl hrest
  | call _ ih =>
      intro us hus
      obtain ⟨as', bs, rfl, has', hbs⟩ := List.map_eq_append_iff.mp hus
      obtain ⟨l, as'', rfl, hl, has''⟩ := List.map_eq_cons_iff.mp has'
      obtain ⟨p, as, rfl, hp, has⟩ := List.map_eq_cons_iff.mp has''
      obtain ⟨r, rfl, hr⟩ := List.map_eq_singleton_iff.mp hbs
      exact (ih as has).call hl hp hr
  | noArgument =>
      intro us hus rest hrest
      obtain rfl := List.map_eq_nil_iff.mp hus
      exact .noArguments hrest
  | lastArgument h ih =>
      intro us hus
      exact (ih us hus).lastArgument (hus ▸ h.opens (by simp))
  | argument h _ ih ih' =>
      intro us hus
      obtain ⟨as, l, bs, rfl, has, hl, hbs⟩ := exists_of_tokensOf_around hus
      exact (ih as has).argument (has ▸ h.opens (by simp)) hl (ih' bs hbs)

/-! ## The strict parser and the grammar -/

/-- What the parser makes of a whole text that the grammar derives, in either mode. -/
theorem outcome_of_derives {mode : Mode} {size n : Nat} {ls : List Lexeme} {f : Formula}
    (h : Derives .expression n (tokensOf ls) [f]) :
    Parser.Outcome (maxNesting < n) (maxOperators < f.operators) f ⟨[], f.operators⟩
      (Parser.formula mode size ⟨ls, 0⟩) := by
  have hends : Level.sum.endsAt (front []) := by simp [Level.endsAt, front, Level.op?]
  have htrace := (h.traced mode ls rfl).expression_end hends rfl
  rw [List.append_nil] at htrace
  exact Parser.ofPhase_chain_iff.mp
    (Parser.outcome_of_trace htrace maxNesting ls.length 0 f.operators (Nat.le_refl _) (by simp))

/-- A strict parse succeeds exactly with the trees that the grammar gives to the tokens. -/
theorem parseWith_strict_iff {names : List String} {text : String} {f : Formula} :
    Formula.parseWith .strict names text = .ok f ↔ Grammatical (tokens names text) f := by
  have hparse : Formula.parseWith .strict names text = .ok f ↔
      ∃ k, Parser.formula .strict text.utf8ByteSize ⟨lexemes names text.toList, 0⟩
        = .ok (f, ⟨[], k⟩) := by
    rw [Formula.parseWith]
    cases Parser.formula .strict text.utf8ByteSize ⟨lexemes names text.toList, 0⟩ with
    | error cause => simp
    | ok r =>
        obtain ⟨g, rest, k⟩ := r
        cases rest with
        | nil => simp
        | cons l ls => simp
  rw [hparse]
  constructor
  · rintro ⟨k, hk⟩
    obtain ⟨us, vs, hus, hmended, hgrammatical⟩ := mended_of_formula hk
    rw [hmended.eq_of_strict] at hgrammatical
    simpa [hus] using hgrammatical
  · rintro ⟨hderives, hoperators⟩
    exact ⟨f.operators, (outcome_of_derives hderives).eq_ok (Nat.lt_irrefl _)
      (Nat.not_lt_of_le hoperators)⟩

/-- **The strict parser accepts exactly its grammar.**  A text reads as a tree if and only if the
grammar derives the tree from the tokens of the text, within the bounds on nesting and operators;
and there is at most one such tree. -/
theorem parse_strict_iff_grammatical (text : String) :
    (∀ f, Formula.parse .strict text = .ok f ↔ Grammatical (tokens [] text) f) ∧
      ∀ f g, Grammatical (tokens [] text) f → Grammatical (tokens [] text) g → f = g := by
  refine ⟨fun f => parseWith_strict_iff, fun f g hf hg => ?_⟩
  have hboth := (parseWith_strict_iff.mpr hf).symm.trans (parseWith_strict_iff.mpr hg)
  exact Except.ok.inj hboth

/-! ## The lenient parser on grammatical texts -/

/-- What a lenient reading makes of a text that the grammar derives. -/
lemma parseWith_lenient_of_derives {names : List String} {text : String} {n : Nat} {f : Formula}
    (h : Derives .expression n (tokens names text) [f]) :
    Formula.parseWith .lenient names text = .ok f ∨
      Formula.parseWith .lenient names text = .error (.parse .tooDeep) ∧ maxNesting < n ∨
      Formula.parseWith .lenient names text = .error (.parse .tooManyOperators) ∧
        maxOperators < f.operators := by
  have houtcome := @outcome_of_derives .lenient text.utf8ByteSize _ _ _ h
  rw [Formula.parseWith]
  generalize Parser.formula .lenient text.utf8ByteSize ⟨lexemes names text.toList, 0⟩ = r
    at houtcome
  cases houtcome with
  | done => exact Or.inl rfl
  | tooDeep hdeep => exact Or.inr (Or.inl ⟨rfl, hdeep⟩)
  | tooMany hmany => exact Or.inr (Or.inr ⟨rfl, hmany⟩)

/-- A text that follows the grammar is read leniently as it is read strictly. -/
lemma parseWith_lenient_of_grammatical {names : List String} {text : String} {f : Formula}
    (h : Grammatical (tokens names text) f) : Formula.parseWith .lenient names text = .ok f := by
  rcases parseWith_lenient_of_derives h.1 with hok | ⟨_, hdeep⟩ | ⟨_, hmany⟩
  · exact hok
  · exact absurd hdeep (Nat.lt_irrefl _)
  · exact absurd hmany (Nat.not_lt_of_le h.2)

end Markbook
