import Markbook.Proofs.Formula.Strict
import Markbook.Proofs.Substitution.Agreement
import Markbook.Proofs.Substitution.Turns

/-!
# Names with punctuation

The scanner reads a formula from the left and takes the first of the known names that stand at a
place; writing the scores into the text goes name by name over the whole of it.  With punctuation in
them names can overlap, and then the two may choose differently: in `A-B-CD` the scanner takes `A-B`
and the scores are written in for `B-CD`.  Where no name begins inside one whose turn comes later,
and no score spells part of a later name, both ways give the same value.

* `Token.fillIn`, `Formula.fillIn` — scores in the place of bound names, in tokens and in trees.
* `Derives.fillIn` — the tree of the tokens with the scores is the tree with the scores.
* `Pieces.renders` — the text with the scores is a spelling of the tokens with the scores.
* `evaluateSubstituted_of_strict` — the agreement.
* `overlapping_disagreement` — names that overlap, and the two ways differ.
-/

namespace Markbook

variable {b : Bindings}

/-! ## Scores in the place of names -/

/-- The score of a bound name, in the place of its token. -/
def Token.fillIn (b : Bindings) : Token → Token
  | .word w => (b.get? w).elim (.word w) .number
  | .name n => (b.get? n).elim (.name n) .number
  | t => t

namespace Formula

mutual

/-- The tree with the scores of bound names in their place. -/
def fillIn (b : Bindings) : Formula → Formula
  | number x => number x
  | name n => (b.get? n).elim (name n) number
  | binary op l r => binary op (l.fillIn b) (r.fillIn b)
  | negate f => negate (f.fillIn b)
  | call g args => call g (fillInAll b args)

def fillInAll (b : Bindings) : List Formula → List Formula
  | [] => []
  | f :: fs => f.fillIn b :: fillInAll b fs

end

lemma fillInAll_eq (fs : List Formula) : fillInAll b fs = fs.map (fillIn b) := by
  induction fs with
  | nil => rw [fillInAll, List.map_nil]
  | cons f fs ih => rw [fillInAll, ih, List.map_cons]

mutual

/-- A tree with the scores in it has the same size. -/
theorem operators_fillIn : ∀ f : Formula, (f.fillIn b).operators = f.operators
  | number x => by rw [fillIn]
  | name n => by
      rw [fillIn]
      cases b.get? n with
      | none => rfl
      | some x => rw [Option.elim, operators, operators]
  | binary op l r => by rw [fillIn, operators, operators, operators_fillIn l, operators_fillIn r]
  | negate f => by rw [fillIn, operators, operators, operators_fillIn f]
  | call g args => by rw [fillIn, operators, operators, operatorsAll_fillInAll args]

theorem operatorsAll_fillInAll : ∀ fs : List Formula,
    operatorsAll (fillInAll b fs) = operatorsAll fs
  | [] => by rw [fillInAll]
  | f :: fs => by
      rw [fillInAll, operatorsAll, operatorsAll, operators_fillIn f, operatorsAll_fillInAll fs]

end

mutual

/-- **A tree with the scores in it needs no bindings.** -/
theorem evaluate_fillIn : ∀ f : Formula,
    (f.fillIn b).evaluate .lenient .empty = f.evaluate .lenient b
  | number x => by rw [fillIn, evaluate, evaluate]
  | name n => by
      rw [fillIn, evaluate, Bindings.lookup_lenient]
      cases hn : b.get? n with
      | some x => rw [Option.elim, evaluate, Option.getD]
      | none => rw [Option.elim, evaluate, Bindings.lookup_lenient]; rfl
  | binary op l r => by
      rw [fillIn, evaluate, evaluate, evaluate_fillIn l, evaluate_fillIn r]
  | negate f => by rw [fillIn, evaluate, evaluate, evaluate_fillIn f]
  | call g args => by simp only [fillIn, evaluate, evaluateAll_fillInAll args]

theorem evaluateAll_fillInAll : ∀ fs : List Formula,
    evaluateAll .lenient .empty (fillInAll b fs) = evaluateAll .lenient b fs
  | [] => by rw [fillInAll, evaluateAll, evaluateAll]
  | f :: fs => by
      rw [fillInAll, evaluateAll, evaluateAll, evaluate_fillIn f, evaluateAll_fillInAll fs]

end

end Formula

lemma Token.isOperand_fillIn (t : Token) : (t.fillIn b).isOperand = t.isOperand := by
  cases t with
  | word w => rw [Token.fillIn]; cases b.get? w <;> rfl
  | name n => rw [Token.fillIn]; cases b.get? n <;> rfl
  | _ => rfl

lemma Token.fillIn_of_not_operand {t : Token} (ht : t.isOperand = false) : t.fillIn b = t := by
  cases t <;> simp_all [Token.fillIn, Token.isOperand]

/-- No bound name stands as the name of a function. -/
def CallsUnbound (b : Bindings) (ts : List Token) : Prop :=
  ∀ w, [.word w, .leftParen] <:+: ts → b.get? w = none

lemma CallsUnbound.mono {ts us : List Token} (h : CallsUnbound b us) (hsub : ts <:+: us) :
    CallsUnbound b ts :=
  fun w hw => h w (hw.trans hsub)

lemma CallsUnbound.tail {t : Token} {ts : List Token} (h : CallsUnbound b (t :: ts)) :
    CallsUnbound b ts :=
  h.mono (List.suffix_cons t ts).isInfix

lemma CallsUnbound.of_append {ts us : List Token} {t : Token}
    (h : CallsUnbound b (ts ++ t :: us)) : CallsUnbound b ts ∧ CallsUnbound b us :=
  ⟨h.mono (List.prefix_append ts _).isInfix,
    (h.mono (List.suffix_append ts _).isInfix).tail⟩

/-- **The tokens with the scores are derived**, and their tree is the tree with the scores. -/
theorem Derives.fillIn {part : Part} {n : Nat} {ts : List Token} {fs : List Formula}
    (h : Derives part n ts fs) : CallsUnbound b ts →
      Derives part n (ts.map (Token.fillIn b)) (fs.map (Formula.fillIn b)) := by
  induction h with
  | ofTerm _ ih => exact fun hcalls => .ofTerm (ih hcalls)
  | ofFactor _ ih => exact fun hcalls => .ofFactor (ih hcalls)
  | sum _ hop _ ih ih' =>
      intro hcalls
      obtain ⟨hleft, hright⟩ := hcalls.of_append
      have hsign := Token.fillIn_of_not_operand (b := b) (isOperand_of_sign hop).1
      simpa [Formula.fillIn, hsign] using (ih hleft).sum hop (ih' hright)
  | product _ hop _ ih ih' =>
      intro hcalls
      obtain ⟨hleft, hright⟩ := hcalls.of_append
      have hsign := Token.fillIn_of_not_operand (b := b) (isOperand_of_sign hop).1
      simpa [Formula.fillIn, hsign] using (ih hleft).product hop (ih' hright)
  | plus _ ih => exact fun hcalls => .plus (ih hcalls.tail)
  | minus _ ih =>
      intro hcalls
      have hoperand := ih hcalls.tail
      simpa [Token.fillIn, Formula.fillIn] using hoperand.minus
  | @parentheses n ts f _ ih =>
      intro hcalls
      have hinner := ih hcalls.of_append.1.tail
      simpa [Token.fillIn] using hinner.parentheses
  | number => exact fun _ => by simpa [Token.fillIn, Formula.fillIn] using Derives.number
  | @name n m =>
      intro _
      simp only [List.map_cons, List.map_nil, Token.fillIn, Formula.fillIn]
      cases b.get? m with
      | none => exact .name
      | some x => exact .number
  | @word n w =>
      intro _
      simp only [List.map_cons, List.map_nil, Token.fillIn, Formula.fillIn]
      cases b.get? w with
      | none => exact .word
      | some x => exact .number
  | @call n text ts fs _ ih =>
      intro hcalls
      have hinner := ih hcalls.of_append.1.tail.tail
      have hname : b.get? text = none := hcalls text ⟨[], ts ++ [.rightParen], by simp⟩
      simpa [Token.fillIn, Formula.fillIn, Formula.fillInAll_eq, hname] using hinner.call
  | noArgument => exact fun _ => .noArgument
  | lastArgument _ ih => exact fun hcalls => .lastArgument (ih hcalls)
  | argument _ _ ih ih' =>
      intro hcalls
      obtain ⟨hleft, hright⟩ := hcalls.of_append
      simpa [Token.fillIn] using (ih hleft).argument (ih' hright)

/-! ## The bindings that are written in -/

/-- A score is written in under each bound name. -/
lemma mem_substitutions {n : String} {x : Float} (hplain : normalize n = n) (hne : n ≠ "") :
    ⟨n, x⟩ ∈ substitutions b ↔ b.get? n = some x := by
  rw [substitutions, List.mem_filterMap]
  constructor
  · rintro ⟨m, _, hm⟩
    obtain ⟨y, hy, heq⟩ := Option.map_eq_some_iff.mp hm
    cases heq
    exact hy
  · intro hx
    refine ⟨n, ?_, by rw [hx]; rfl⟩
    obtain ⟨e, he, _⟩ := Option.map_eq_some_iff.mp hx
    have hname : normalize e.name = n := by
      have hsame := List.find?_some he
      rwa [sameName_iff, hplain] at hsame
    rw [substitutionOrder, mem_orderedSet, List.mem_filter, ← hname]
    refine ⟨List.mem_map_of_mem (List.mem_map_of_mem (List.mem_of_find?_eq_some he)), ?_⟩
    simpa [hname] using hne

/-- The names are taken in order, each once. -/
lemma pairwise_substitutions :
    (substitutions b).Pairwise fun e e' => longerFirst e.name e'.name = true := by
  have hsorted := pairwise_orderedSet longerFirst_strictTotal
    ((b.names.map normalize).filter (· != ""))
  rw [substitutions, List.pairwise_filterMap]
  refine hsorted.imp fun {m n} hmn e he e' he' => ?_
  obtain ⟨x, _, rfl⟩ := Option.map_eq_some_iff.mp he
  obtain ⟨y, _, rfl⟩ := Option.map_eq_some_iff.mp he'
  exact hmn

/-- The scanner knows names that are bound. -/
lemma exists_of_mem_punctuatedNames {m : String} (h : m ∈ punctuatedNames b.names) :
    isPunctuated m = true ∧ ∃ e ∈ substitutions b, e.name = m := by
  rw [punctuatedNames, mem_orderedSet, List.mem_filter] at h
  obtain ⟨hmem, hpunctuated⟩ := h
  obtain ⟨k, hk, rfl⟩ := List.mem_map.mp hmem
  obtain ⟨e, he, rfl⟩ := List.mem_map.mp hk
  have hne : normalize e.name ≠ "" := by
    intro heq
    rw [heq] at hpunctuated
    exact absurd hpunctuated (by decide)
  have hsome : (b.entries.find? (sameName ·.name (normalize e.name))).isSome = true := by
    rw [List.find?_isSome]
    exact ⟨e, he, by simp⟩
  obtain ⟨e', he'⟩ := Option.isSome_iff_exists.mp hsome
  refine ⟨hpunctuated, ⟨normalize e.name, e'.score⟩, ?_, rfl⟩
  exact (mem_substitutions (normalize_normalize _) hne).mpr (by rw [Bindings.get?, he']; rfl)

/-- No name gets in the way of one whose turn comes later: it does not begin in the text inside that
one, and its score spells no part of it. -/
def Unhindered (es : List Binding) (cs : List Char) : Prop :=
  es.Pairwise fun e e' => ¬ RunsInto e'.name.toList e.name.toList cs ∧
    ¬ (printScore e.score).toList <:+: e'.name.toList

instance (es : List Binding) (cs : List Char) : Decidable (Unhindered es cs) :=
  inferInstanceAs (Decidable (es.Pairwise _))

/-- In the order of writing a known name stands on the side on which the scanner tries it. -/
lemma exists_of_split {done rest : List Binding} {e : Binding}
    (hall : substitutions b = done ++ e :: rest) {m : String}
    (hm : m ∈ punctuatedNames b.names) : ∃ e', e'.name = m ∧
      (e' ∈ done ∧ longerFirst m e.name = true ∨ e' = e ∨
        e' ∈ rest ∧ longerFirst e.name m = true) := by
  have hsorted := pairwise_substitutions (b := b)
  rw [hall] at hsorted
  obtain ⟨_, hlater, hearlier⟩ := List.pairwise_append.mp hsorted
  obtain ⟨_, e', he', rfl⟩ := exists_of_mem_punctuatedNames hm
  refine ⟨e', rfl, ?_⟩
  rw [hall, List.mem_append, List.mem_cons] at he'
  rcases he' with he' | heq | he'
  · exact Or.inl ⟨he', hearlier e' he' e List.mem_cons_self⟩
  · exact Or.inr (Or.inl heq)
  · exact Or.inr (Or.inr ⟨he', (List.pairwise_cons.mp hlater).1 e' he'⟩)

section

variable (hinsertable : ∀ e ∈ substitutions b, Insertable e)
include hinsertable

/-- Each score is written in at its turn. -/
lemma turn_of_substitutions {cs : List Char} (hascii : ∀ c ∈ cs, c.toNat < 128)
    (hunhindered : Unhindered (substitutions b) cs) {done rest : List Binding} {e : Binding}
    (hall : substitutions b = done ++ e :: rest) : Turn (punctuatedNames b.names) cs done e := by
  have he : e ∈ substitutions b := by simp [hall]
  have hdone : ∀ d ∈ done, d ∈ substitutions b := fun d hd => by simp [hall, hd]
  rw [Unhindered, hall] at hunhindered
  obtain ⟨_, hlater, hearlier⟩ := List.pairwise_append.mp hunhindered
  refine
    { ascii := hascii
      known := fun m hm => ?known
      settled := fun d hd => hinsertable d (hdone d hd)
      self := hinsertable e he
      punctuated := fun hpunctuated => ?punctuated
      earlier := fun m hm hlonger => ?earlier
      scores := fun d hd => (hearlier d hd e List.mem_cons_self).2
      later := fun m hm hlonger => ?later }
  case known =>
    obtain ⟨hpunctuated, e', he', rfl⟩ := exists_of_mem_punctuatedNames hm
    exact ⟨hpunctuated, (hinsertable e' he').name⟩
  case punctuated =>
    obtain ⟨e', hentry, hname, _⟩ := exists_of_mem_substitutions he
    rw [punctuatedNames, mem_orderedSet, List.mem_filter]
    refine ⟨?_, hpunctuated⟩
    rw [← hname]
    exact List.mem_map_of_mem (List.mem_map_of_mem hentry)
  case earlier =>
    obtain ⟨e', rfl, ⟨he', _⟩ | rfl | ⟨_, hshorter⟩⟩ := exists_of_split hall hm
    · exact ⟨e', he', rfl⟩
    · rw [longerFirst_strictTotal.irrefl] at hlonger
      cases hlonger
    · rw [longerFirst_strictTotal.asymm hshorter] at hlonger
      cases hlonger
  case later =>
    obtain ⟨e', rfl, ⟨_, hshorter⟩ | rfl | ⟨he', _⟩⟩ := exists_of_split hall hm
    · rw [longerFirst_strictTotal.asymm hshorter] at hlonger
      cases hlonger
    · rw [longerFirst_strictTotal.irrefl] at hlonger
      cases hlonger
    · exact ((List.pairwise_cons.mp hlater).1 e' he').1

/-- The score of a bound name is a number, and what is written in the place of the name. -/
lemma spells_of_get? {n : String} {x : Float} (hplain : normalize n = n) (hne : n ≠ "")
    (hx : b.get? n = some x) : Spells (.number x) (write (substitutions b) n.toList) := by
  rcases write_cases (substitutions b) n.toList with ⟨e, he, hname, hwrite⟩ | ⟨hnone, _⟩
  · obtain ⟨m, y⟩ := e
    obtain rfl : m = n := String.toList_inj.mp hname
    obtain rfl : y = x := Option.some.inj (((mem_substitutions hplain hne).mp he).symm.trans hx)
    obtain ⟨hds, k, hk, hvalue⟩ := (hinsertable _ he).numeral
    have hnumber := Spells.number hds hk
    rwa [hvalue, ← hwrite] at hnumber
  · exact absurd rfl (hnone ⟨n, x⟩ ((mem_substitutions hplain hne).mpr hx))

/-- A word gives way to its score if it is bound, and stays otherwise. -/
lemma spells_fillIn_word {u : List Char} (hu : IsIdentifier u) :
    Spells (Token.fillIn b (.word (String.ofList u))) (write (substitutions b) u) := by
  have hplain : normalize (String.ofList u) = String.ofList u :=
    IsIdentifier.normalize_eq (by rwa [String.toList_ofList])
  have hne : String.ofList u ≠ "" := by
    intro heq
    rw [← String.toList_inj, String.toList_ofList] at heq
    exact hu.ne_nil heq
  cases hx : b.get? (String.ofList u) with
  | some x =>
      have hscore := spells_of_get? hinsertable hplain hne hx
      rw [String.toList_ofList] at hscore
      rwa [Token.fillIn, hx]
  | none =>
      have hnone : ∀ e ∈ substitutions b, e.name.toList ≠ u := by
        rintro ⟨m, x⟩ he rfl
        rw [String.ofList_toList] at hx hplain hne
        rw [(mem_substitutions hplain hne).mp he] at hx
        cases hx
      rw [Token.fillIn, hx, write_of_notMem hnone]
      exact .word hu

/-- **What is written for a piece** is a spelling of its token with the score. -/
lemma CutsOff.spells_fillIn {before : Option Char} {rest : List Char} {p : Piece}
    (h : CutsOff (punctuatedNames b.names) before rest p) :
    Spells (p.token.fillIn b) (write (substitutions b) p.text) := by
  have hlettered : ∀ e ∈ substitutions b, IsLettered e.name.toList :=
    fun e he => (hinsertable e he).name
  cases h with
  | @known n hn _ _ =>
      obtain ⟨_, ⟨m, x⟩, he, rfl⟩ := exists_of_mem_punctuatedNames hn
      have hplain := (hinsertable _ he).plain
      have hne : m ≠ "" := by
        rintro rfl
        exact absurd rfl (hlettered _ he).ne_nil
      have hx := (mem_substitutions hplain hne).mp he
      rw [Token.fillIn, hx]
      exact spells_of_get? hinsertable hplain hne hx
  | @plain t u hspells hbracket _ =>
      cases hspells with
      | sign ht =>
          rw [Token.fillIn_of_not_operand (isOperand_of_ofSign? ht), write_sign hlettered ht]
          exact .sign ht
      | word hw => exact spells_fillIn_word hinsertable hw
      | number hds hn =>
          have hnone : ∀ e ∈ substitutions b, e.name.toList ≠ u := by
            rintro e he rfl
            obtain ⟨c, w, hcons, hletter⟩ := (hlettered e he).exists_cons
            rw [isAlpha_of_isNumberChar (hds c (hcons ▸ List.mem_cons_self))] at hletter
            cases hletter
          rw [write_of_notMem hnone]
          exact .number hds hn
      | bracket _ => exact absurd List.mem_cons_self hbracket

/-- **The text with the scores** is a spelling of the tokens with the scores. -/
theorem Pieces.renders {before : Option Char} {ps : List Piece}
    (h : Pieces (punctuatedNames b.names) before ps) :
    Renders (ps.map fun p => p.token.fillIn b) (written (substitutions b) ps) := by
  induction h with
  | nil => exact .nil
  | @cons before p ps hcut hapart _ ih =>
      refine .cons (hcut.spells_fillIn hinsertable) (fun hoperand t ht => ?_) ih
      rw [List.head?_map] at ht
      obtain ⟨q, hq, rfl⟩ := Option.map_eq_some_iff.mp ht
      rw [Token.isOperand_fillIn] at hoperand ⊢
      exact hapart hoperand q hq

end

/-! ## The agreement -/

/-- **The text with the scores follows the grammar** where the formula does, and its tree is the
tree with the scores. -/
lemma grammatical_substitute {text : String} {f : Formula}
    (hinsertable : ∀ e ∈ substitutions b, Insertable e)
    (hascii : ∀ c ∈ (normalize text).toList, c.toNat < 128) (hopen : '[' ∉ (normalize text).toList)
    (hunhindered : Unhindered (substitutions b) (normalize text).toList)
    (hcalls : CallsUnbound b (tokens (punctuatedNames b.names) (normalize text)))
    (h : Grammatical (tokens (punctuatedNames b.names) (normalize text)) f) :
    Grammatical (tokens [] (substitute b text)) (f.fillIn b) := by
  have hsorted : (punctuatedNames b.names).Pairwise (longerFirst · ·) :=
    pairwise_orderedSet longerFirst_strictTotal _
  have hnonempty : ∀ n ∈ punctuatedNames b.names, n.toList ≠ [] := by
    intro n hn
    obtain ⟨_, e, he, rfl⟩ := exists_of_mem_punctuatedNames hn
    exact (hinsertable e he).name.ne_nil
  have hblank : ∀ c ∈ (normalize text).toList, isBlank c = false :=
    normalize_eq_self.mp (normalize_normalize text)
  obtain ⟨ps, hspelling, htokens, hpieces⟩ :=
    exists_pieces hsorted hnonempty _ _ none (Nat.le_refl _) hascii hblank hopen h.1.apart
  have htext : substitute b text = String.ofList (written (substitutions b) ps) := by
    rw [← hspelling] at hopen hascii hunhindered
    have hall := foldl_substituteOne hpieces hopen (fun done e rest hall =>
      turn_of_substitutions hinsertable hascii hunhindered hall) (substitutions b) [] rfl
    rw [substitute, ← hspelling, ← hall, written_nil]
  have hfilled : tokens [] (substitute b text) =
      (tokens (punctuatedNames b.names) (normalize text)).map (Token.fillIn b) := by
    have hrenders := hpieces.renders hinsertable
    have htokens' : tokens (punctuatedNames b.names) (normalize text) = ps.map (·.token) := htokens
    rw [tokens, htext, String.toList_ofList, htokens', List.map_map]
    exact hrenders.tokens_eq
  rw [hfilled]
  refine ⟨h.1.fillIn hcalls, ?_⟩
  rw [Formula.operators_fillIn]
  exact h.2

/-- The words of a text are plain, so it is enough that no name as it is written in is called. -/
lemma callsUnbound_tokens {text : String} (h : ∀ e ∈ b.entries,
    ¬ [.word (normalize e.name), .leftParen] <:+:
      tokens (punctuatedNames b.names) (normalize text)) :
    CallsUnbound b (tokens (punctuatedNames b.names) (normalize text)) := by
  intro w hw
  by_contra hne
  obtain ⟨x, hx⟩ := Option.ne_none_iff_exists'.mp hne
  obtain ⟨e, he, _⟩ := Option.map_eq_some_iff.mp hx
  obtain ⟨l, hl, htoken⟩ := List.mem_map.mp (hw.subset List.mem_cons_self)
  have hplain := plain_of_mem_lexemes (fun n => normalize_of_mem_punctuatedNames)
    (normalize_eq_self.mp (normalize_normalize text)) l hl
  rw [htoken] at hplain
  have hname : normalize e.name = w := by
    have hsame := List.find?_some he
    rwa [sameName_iff, hplain w rfl] at hsame
  exact h e (List.mem_of_find?_eq_some he) (hname ▸ hw)

/-- **The two ways to a value agree on names with punctuation**, as long as no name gets in the way
of one whose turn comes later.  The formula is an ASCII text without brackets, and strictly it has
the value `v`; the bound names start and end with a letter, and none of them is called; the scores
are finite and have no sign.  Then writing the scores into the text and evaluating what is left
gives `v`.

That the text of a score reads back as the score is a matter of how doubles are printed and read,
and is taken for granted. -/
theorem evaluateSubstituted_of_strict {text : String} {v : Float}
    (hascii : ∀ c ∈ text.toList, c.toNat < 128) (hbrackets : '[' ∉ text.toList)
    (hnames : ∀ e ∈ b.entries, IsLettered (normalize e.name).toList)
    (hcalls : ∀ e ∈ b.entries, ¬ [.word (normalize e.name), .leftParen] <:+:
      tokens (punctuatedNames b.names) (normalize text))
    (hfinite : ∀ e ∈ b.entries, e.score.isFinite = true)
    (hunsigned : ∀ e ∈ b.entries, '-' ∉ (printScore e.score).toList)
    (hback : ∀ e ∈ b.entries, readScore? (printScore e.score) = some e.score)
    (hunhindered : Unhindered (substitutions b) (normalize text).toList)
    (hstrict : evaluateFormula .strict b text = .ok v) : evaluateSubstituted b text = v := by
  obtain ⟨f, hread, hvalue⟩ := Except.bind_eq_ok.mp hstrict
  have hgrammatical : Grammatical (tokens (punctuatedNames b.names) (normalize text)) f :=
    parseWith_strict_iff.mp hread
  have hinsertable : ∀ e ∈ substitutions b, Insertable e := by
    intro e he
    obtain ⟨e', hentry, hname, hscore⟩ := exists_of_mem_substitutions he
    refine ⟨hname ▸ hnames e' hentry, ?_, hscore ▸ hfinite e' hentry, hscore ▸ hback e' hentry,
      hscore ▸ hunsigned e' hentry⟩
    rw [← hname, normalize_normalize]
  have hmem : ∀ c ∈ (normalize text).toList, c ∈ text.toList := by
    intro c hc
    rw [toList_normalize] at hc
    exact List.mem_of_mem_filter hc
  have hsubstituted := grammatical_substitute hinsertable (fun c hc => hascii c (hmem c hc))
    (fun hc => hbrackets (hmem _ hc)) hunhindered (callsUnbound_tokens hcalls) hgrammatical
  have hparse : Formula.parse .lenient (substitute b text) = .ok (f.fillIn b) :=
    parseWith_lenient_of_grammatical hsubstituted
  have hlenient : (f.fillIn b).evaluate .lenient .empty = .ok v := by
    rw [Formula.evaluate_fillIn]
    exact Formula.evaluate_lenient_of_strict f hvalue
  rw [evaluateSubstituted, evaluateExpression, hparse]
  show orZero ((f.fillIn b).evaluate .lenient .empty) = v
  rw [hlenient]
  rfl

/-- Names within names, some of them with punctuation. -/
def nestedBindings : Bindings :=
  .ofList [("A", 2.5), ("Lab A", 3), ("Lab A-B", 4), ("B (x) C", 0.5)]

/-- Both ways to the value of a formula with such names. -/
theorem nested_agreement :
    let text := "2*Lab A-B - A + max(Lab A, B(x)C) / A"
    substitute nestedBindings text = "2*4-2.5+max(3,0.5)/2.5" ∧
      evaluateFormula .strict nestedBindings text = .ok 6.7 ∧
      evaluateSubstituted nestedBindings text = 6.7 := by
  intro text
  have hstrict : evaluateFormula .strict nestedBindings text = .ok 6.7 := by
    rw [eq_ok_of_isOk (r := evaluateFormula .strict nestedBindings text) (by decide +kernel)]
    exact congrArg _ (by decide +kernel)
  have hascii : text.toList.all (·.toNat < 128) = true := by decide +kernel
  exact ⟨by decide +kernel, hstrict, evaluateSubstituted_of_strict (by simpa using hascii)
    (by decide +kernel) (by decide +kernel) (by decide +kernel) (by decide +kernel)
    (by decide +kernel) (by decide +kernel) (by decide +kernel) hstrict⟩

/-- The names `A-B` and `B-CD` overlap in `A-B-CD`. -/
def overlappingBindings : Bindings :=
  .ofList [("A", 1), ("A-B", 10), ("B-CD", 100), ("CD", 1)]

/-- **Where names overlap, the two ways differ**, though all else is as it has to be for them to
agree.  The scanner takes the name on the left; the score is written in for the one on the right,
which is longer. -/
theorem overlapping_disagreement :
    let text := "A-B-CD"
    (∀ e ∈ overlappingBindings.entries, IsLettered (normalize e.name).toList ∧
      ¬ [.word (normalize e.name), .leftParen] <:+:
        tokens (punctuatedNames overlappingBindings.names) (normalize text) ∧
      e.score.isFinite = true ∧ '-' ∉ (printScore e.score).toList ∧
      readScore? (printScore e.score) = some e.score) ∧
    substitute overlappingBindings text = "1-100" ∧
    evaluateFormula .strict overlappingBindings text = .ok 9 ∧
    evaluateSubstituted overlappingBindings text = -99 := by
  intro text
  refine ⟨by decide +kernel, by decide +kernel, ?_, by decide +kernel⟩
  rw [eq_ok_of_isOk (r := evaluateFormula .strict overlappingBindings text) (by decide +kernel)]
  exact congrArg _ (by decide +kernel)

end Markbook
