import Markbook.Proofs.Formula.Trace

/-!
# What comes of a run

A run leaves the limits of the parser out of account.  With them, the parser follows a run to its
end unless it has to stop at one of the two limits, and it only stops where the run goes beyond that
limit.  So within the limits runs and successes of the parser are the same thing.

* `Outcome` — a given success, or a stop at a limit that has a given reason.
* `ofPhase` — the parser for each phase.
* `Followed` — the parser goes the way of a run, with a lemma for each rule of runs.
* `outcome_of_trace` — what comes of a run.
-/

namespace Markbook

namespace Parser

/-- The result of a parser that succeeds with `a` at the cursor `d` unless it stops at a limit:
at that on the nesting for the reason `deep`, at that on operators for the reason `many`. -/
inductive Outcome (deep many : Prop) {α : Type} (a : α) (d : Cursor) :
    Except ParseError (α × Cursor) → Prop
  | done : Outcome deep many a d (.ok (a, d))
  | tooDeep : deep → Outcome deep many a d (.error .tooDeep)
  | tooMany : many → Outcome deep many a d (.error .tooManyOperators)

namespace Outcome

variable {deep many deep' many' : Prop} {α β : Type} {a : α} {b : β} {c d e : Cursor}

lemma imp {r : Except ParseError (α × Cursor)} (h : Outcome deep many a d r) (hdeep : deep → deep')
    (hmany : many → many') : Outcome deep' many' a d r := by
  cases h with
  | done => exact .done
  | tooDeep h => exact .tooDeep (hdeep h)
  | tooMany h => exact .tooMany (hmany h)

/-- Without a reason to stop at a limit the parser succeeds. -/
lemma eq_ok {r : Except ParseError (α × Cursor)} (h : Outcome deep many a d r) (hdeep : ¬ deep)
    (hmany : ¬ many) : r = .ok (a, d) := by
  cases h with
  | done => rfl
  | tooDeep h => exact absurd h hdeep
  | tooMany h => exact absurd h hmany

lemma bind {p : Parser α} {q : α → Parser β} (hp : Outcome deep many a d (p c))
    (hq : Outcome deep many b e (q a d)) : Outcome deep many b e ((p >>= q) c) := by
  cases hpc : p c with
  | error cause =>
      rw [bind_of_error hpc]
      rw [hpc] at hp
      cases hp with
      | tooDeep h => exact .tooDeep h
      | tooMany h => exact .tooMany h
  | ok r =>
      rw [hpc] at hp
      cases hp
      rwa [bind_of_ok hpc]

lemma current (c : Cursor) : Outcome deep many (front c.rest) c (current c) := by
  rw [current_apply]
  exact .done

lemma get (c : Cursor) : Outcome deep many c c ((MonadStateOf.get : Parser Cursor) c) :=
  .done

lemma advance (l : Lexeme) (ls : List Lexeme) (k : Nat) :
    Outcome deep many () ⟨ls, k⟩ (advance ⟨l :: ls, k⟩) :=
  .done

lemma countOperator (ls : List Lexeme) (k : Nat) (h : maxOperators < k + 1 → many) :
    Outcome deep many () ⟨ls, k + 1⟩ (countOperator ⟨ls, k⟩) := by
  rw [countOperator_apply]
  split_ifs with hk
  · exact .done
  · exact .tooMany (h (Nat.lt_succ_of_le (Nat.le_of_not_lt hk)))

/-- A single tree, as the list in which runs record it. -/
lemma singleton_iff {p : Parser Formula} {f : Formula} :
    Outcome deep many [f] d (((fun f => [f]) <$> p) c) ↔ Outcome deep many f d (p c) := by
  have hmap : ((fun f => [f]) <$> p) c = (p c).map fun r => ([r.1], r.2) := by
    simp only [Functor.map, StateT.map, Bind.bind, Except.bind, Pure.pure, Except.pure, Except.map]
  rw [hmap]
  cases p c with
  | error cause =>
      constructor
      · rintro (_ | h | h)
        · exact .tooDeep h
        · exact .tooMany h
      · rintro (_ | h | h)
        · exact .tooDeep h
        · exact .tooMany h
  | ok r =>
      obtain ⟨g, e⟩ := r
      constructor
      · rintro ⟨⟩
        exact .done
      · rintro ⟨⟩
        exact .done

end Outcome

/-! ## The parser for each phase -/

/-- The parser for an operand of a level, given that for factors. -/
def operandOf (factor : Parser Formula) : Level → Parser Formula
  | .sum => term factor
  | .product => factor

/-- The parser for a phase, with `room` levels of nesting left.  The fuel bounds the operators
behind a value and the arguments behind the first. -/
def ofPhase (mode : Mode) (size room fuel : Nat) : Phase → Parser (List Formula)
  | .chain level => (fun f => [f]) <$> chain level.op? (operandOf (factor mode size room) level)
  | .behind level left =>
    (fun f => [f]) <$> chainFrom level.op? (operandOf (factor mode size room) level) fuel left
  | .factor => (fun f => [f]) <$> factor mode size room
  | .arguments => arguments (expression (factor mode size room))
  | .moreArguments => moreArguments (expression (factor mode size room)) fuel

lemma ofPhase_operand (mode : Mode) (size room fuel : Nat) (level : Level) :
    ofPhase mode size room fuel level.operand =
      (fun f => [f]) <$> operandOf (factor mode size room) level := by
  cases level <;> rfl

variable {mode : Mode} {deep many : Prop} {size : Nat}

lemma outcome_close {ls ms : List Lexeme} (h : Closes mode ls ms) (k : Nat) :
    Outcome deep many () ⟨ms, k⟩ (close mode size ⟨ls, k⟩) := by
  cases h with
  | @closed l _ hl =>
      refine (Outcome.current _).bind ?_
      simp only [front, hl]
      exact .advance l ms k
  | missing hmode hfront =>
      subst hmode
      refine (Outcome.current _).bind ?_
      cases hf : front ls with
      | rightParen => exact absurd hf hfront
      | _ => exact .done

lemma ofPhase_behind_iff {room fuel : Nat} {level : Level} {left f : Formula} {c d : Cursor} :
    Outcome deep many [f] d (ofPhase mode size room fuel (.behind level left) c) ↔
      Outcome deep many f d
        (chainFrom level.op? (operandOf (factor mode size room) level) fuel left c) :=
  Outcome.singleton_iff

lemma ofPhase_operand_iff {room fuel : Nat} {level : Level} {f : Formula} {c d : Cursor} :
    Outcome deep many [f] d (ofPhase mode size room fuel level.operand c) ↔
      Outcome deep many f d (operandOf (factor mode size room) level c) := by
  rw [ofPhase_operand, Outcome.singleton_iff]

lemma ofPhase_factor_iff {room fuel : Nat} {f : Formula} {c d : Cursor} :
    Outcome deep many [f] d (ofPhase mode size room fuel .factor c) ↔
      Outcome deep many f d (factor mode size room c) :=
  Outcome.singleton_iff

lemma ofPhase_chain_iff {room fuel : Nat} {f : Formula} {c d : Cursor} :
    Outcome deep many [f] d (ofPhase mode size room fuel (.chain .sum) c) ↔
      Outcome deep many f d (expression (factor mode size room) c) :=
  Outcome.singleton_iff

/-! ## Following a run -/

/-- The parser for a phase follows a run to its end.  With `room` levels of nesting and `k`
operators counted, it stops at the limit on nesting only if more than `n` of them are needed, and at
the limit on operators only if there are more of them in the end. -/
def Followed (mode : Mode) (size : Nat) (phase : Phase) (n : Nat) (ls : List Lexeme)
    (fs : List Formula) (ns : List Lexeme) : Prop :=
  ∀ room fuel k k' : Nat, ls.length ≤ fuel → k' + phase.operators = k + Formula.operatorsAll fs →
    Outcome (room < n) (maxOperators < k') fs ⟨ns, k'⟩ (ofPhase mode size room fuel phase ⟨ls, k⟩)

namespace Followed

variable {n : Nat} {l p : Lexeme} {ls ms ns : List Lexeme} {level : Level} {op : BinaryOp}
  {f g h : Formula} {fs : List Formula} {text : String}

lemma chain (hle : f.operators ≤ g.operators)
    (hfirst : Followed mode size level.operand n ls [f] ms)
    (hbehind : Followed mode size (.behind level f) n ms [g] ns) :
    Followed mode size (.chain level) n ls [g] ns := by
  intro room fuel k k' hfuel hk
  simp only [operators_chain, Nat.add_zero, operatorsAll_singleton] at hk
  have hf := hfirst room fuel k (k + f.operators) hfuel (by simp)
  have hg := hbehind room ms.length (k + f.operators) k' (Nat.le_refl _) (by simp; omega)
  exact Outcome.singleton_iff.mpr
    (((ofPhase_operand_iff.mp hf).imp id (by omega)).bind (ofPhase_behind_iff.mp hg))

lemma operator (hop : level.op? l.token = some op) (hlength : ms.length ≤ ls.length)
    (hle : (Formula.binary op f g).operators ≤ h.operators)
    (hright : Followed mode size level.operand n ls [g] ms)
    (hbehind : Followed mode size (.behind level (.binary op f g)) n ms [h] ns) :
    Followed mode size (.behind level f) n (l :: ls) [h] ns := by
  intro room fuel k k' hfuel hk
  simp only [operators_behind, operatorsAll_singleton, Formula.operators] at hk hle
  cases fuel with
  | zero => simp at hfuel
  | succ fuel =>
      have hfuel' : ls.length ≤ fuel := by simpa using hfuel
      have hg := hright room fuel (k + 1) (k + 1 + g.operators) hfuel' (by simp)
      have hh := hbehind room fuel (k + 1 + g.operators) k' (by omega)
        (by simp [Formula.operators]; omega)
      rw [ofPhase_behind_iff, chainFrom]
      refine (Outcome.current _).bind ?_
      simp only [front, hop]
      exact (Outcome.countOperator _ _ (by omega)).bind
        ((Outcome.advance _ _ _).bind
          (((ofPhase_operand_iff.mp hg).imp id (by omega)).bind (ofPhase_behind_iff.mp hh)))

lemma chainEnd (hop : level.op? (front ls) = none) :
    Followed mode size (.behind level f) n ls [f] ls := by
  intro room fuel k k' _ hk
  obtain rfl : k' = k := by simpa using hk
  rw [ofPhase_behind_iff]
  cases fuel with
  | zero => exact .done
  | succ fuel =>
      rw [chainFrom]
      refine (Outcome.current _).bind ?_
      simp only [hop]
      exact .done

/-! ### Operands -/

/-- An operand is read if there is a level of nesting left for it. -/
lemma factor (h : ∀ room k, Outcome (room < n) (maxOperators < k + f.operators) f
      ⟨ns, k + f.operators⟩ (operand mode size (factor mode size room) ⟨ls, k⟩)) :
    Followed mode size .factor (n + 1) ls [f] ns := by
  intro room fuel k k' _ hk
  obtain rfl : k' = k + f.operators := by simpa using hk
  rw [ofPhase_factor_iff]
  cases room with
  | zero => exact .tooDeep (Nat.succ_pos n)
  | succ room => exact (h room k).imp (Nat.succ_lt_succ) id

/-- An operand without an operator and without another operand in it. -/
lemma leaf (hf : f.operators = 0)
    (h : ∀ deeper k, operand mode size deeper ⟨ls, k⟩ = .ok (f, ⟨ns, k⟩)) :
    Followed mode size .factor (n + 1) ls [f] ns := by
  refine factor fun room k => ?_
  rw [h, hf, Nat.add_zero]
  exact .done

lemma number {x : Float} (hl : l.token = .number x) :
    Followed mode size .factor (n + 1) (l :: ls) [.number x] ls := by
  refine leaf (by simp [Formula.operators]) fun deeper k => ?_
  rw [operand, bind_of_ok (current_apply _)]
  simp only [front, hl]
  rfl

lemma name {m : String} (hl : l.token = .name m) :
    Followed mode size .factor (n + 1) (l :: ls) [.name m] ls := by
  refine leaf (by simp [Formula.operators]) fun deeper k => ?_
  rw [operand, bind_of_ok (current_apply _)]
  simp only [front, hl]
  rfl

lemma word (hl : l.token = .word text) (hfront : front ls ≠ .leftParen) :
    Followed mode size .factor (n + 1) (l :: ls) [.name text] ls := by
  refine leaf (by simp [Formula.operators]) fun deeper k => ?_
  rw [operand, bind_of_ok (current_apply _)]
  simp only [front, hl]
  rw [bind_of_ok (advance_apply _), bind_of_ok (current_apply _)]
  simp only [List.tail_cons]
  cases hf : front ls with
  | leftParen => exact absurd hf hfront
  | _ => rfl

lemma missing (hopens : (front ls).opens = false) :
    Followed .lenient size .factor (n + 1) ls [.number 0] ls := by
  refine leaf (by simp [Formula.operators]) fun deeper k => ?_
  rw [operand, bind_of_ok (current_apply _)]
  cases hf : front ls with
  | plus | minus | leftParen | number _ | name _ | word _ => simp [hf, Token.opens] at hopens
  | _ => rfl

lemma plus (hl : l.token = .plus) (hoperand : Followed mode size .factor n ls [f] ms) :
    Followed mode size .factor (n + 1) (l :: ls) [f] ms := by
  refine factor fun room k => ?_
  have hf := hoperand room ls.length k (k + f.operators) (Nat.le_refl _) (by simp)
  rw [operand]
  refine (Outcome.current _).bind ?_
  simp only [front, hl]
  exact (Outcome.advance _ _ _).bind (ofPhase_factor_iff.mp hf)

lemma minus (hl : l.token = .minus) (hoperand : Followed mode size .factor n ls [f] ms) :
    Followed mode size .factor (n + 1) (l :: ls) [.negate f] ms := by
  refine factor fun room k => ?_
  rw [Formula.operators]
  have hf := hoperand room ls.length (k + 1) (k + (f.operators + 1)) (Nat.le_refl _)
    (by simp; omega)
  rw [operand]
  refine (Outcome.current _).bind ?_
  simp only [front, hl]
  exact (Outcome.countOperator _ _ (by omega)).bind
    ((Outcome.advance _ _ _).bind ((ofPhase_factor_iff.mp hf).bind .done))

lemma parentheses (hl : l.token = .leftParen)
    (hinner : Followed mode size (.chain .sum) n ls [f] ms) (hclose : Closes mode ms ns) :
    Followed mode size .factor (n + 1) (l :: ls) [f] ns := by
  refine factor fun room k => ?_
  have hf := hinner room ls.length k (k + f.operators) (Nat.le_refl _) (by simp)
  rw [operand]
  refine (Outcome.current _).bind ?_
  simp only [front, hl]
  exact (Outcome.advance _ _ _).bind
    ((ofPhase_chain_iff.mp hf).bind ((outcome_close hclose _).bind .done))

lemma call (hl : l.token = .word text) (hp : p.token = .leftParen)
    (hargs : Followed mode size .arguments n ls fs ms) (hclose : Closes mode ms ns) :
    Followed mode size .factor (n + 1) (l :: p :: ls) [.call (lowerCase text) fs] ns := by
  refine factor fun room k => ?_
  rw [Formula.operators]
  have hfs := hargs room ls.length (k + 1) (k + (Formula.operatorsAll fs + 1)) (Nat.le_refl _)
    (by simp; omega)
  rw [operand]
  refine (Outcome.current _).bind ?_
  simp only [front, hl]
  refine (Outcome.advance _ _ _).bind ((Outcome.current _).bind ?_)
  simp only [front, hp]
  exact (Outcome.countOperator _ _ (by omega)).bind ((Outcome.advance _ _ _).bind
    (Outcome.bind hfs ((outcome_close hclose _).bind .done)))

/-! ### Arguments -/

lemma noArguments (hfront : front ls = .rightParen) :
    Followed mode size .arguments n ls [] ls := by
  intro room fuel k k' _ hk
  obtain rfl : k' = k := by simpa [Formula.operatorsAll] using hk
  refine (Outcome.current _).bind ?_
  simp only [hfront]
  exact .done

lemma arguments (hfront : front ls ≠ .rightParen)
    (hfirst : Followed mode size (.chain .sum) n ls [f] ms)
    (hmore : Followed mode size .moreArguments n ms fs ns) :
    Followed mode size .arguments n ls (f :: fs) ns := by
  intro room fuel k k' _ hk
  simp only [operators_arguments, Nat.add_zero, Formula.operatorsAll] at hk
  have hf := hfirst room ls.length k (k + f.operators) (Nat.le_refl _) (by simp)
  have hfs := hmore room ms.length (k + f.operators) k' (Nat.le_refl _) (by simp; omega)
  have hexpression : Outcome (room < n) (maxOperators < k') f ⟨ms, k + f.operators⟩
      (expression (Parser.factor mode size room) ⟨ls, k⟩) :=
    (ofPhase_chain_iff.mp hf).imp id (by omega)
  refine (Outcome.current _).bind ?_
  cases hfr : front ls with
  | rightParen => exact absurd hfr hfront
  | _ => exact hexpression.bind ((Outcome.get _).bind (Outcome.bind hfs .done))

lemma moreArguments (hl : l.token = .comma) (hlength : ms.length ≤ ls.length)
    (hfirst : Followed mode size (.chain .sum) n ls [f] ms)
    (hmore : Followed mode size .moreArguments n ms fs ns) :
    Followed mode size .moreArguments n (l :: ls) (f :: fs) ns := by
  intro room fuel k k' hfuel hk
  simp only [operators_moreArguments, Nat.add_zero, Formula.operatorsAll] at hk
  cases fuel with
  | zero => simp at hfuel
  | succ fuel =>
      have hfuel' : ls.length ≤ fuel := by simpa using hfuel
      have hf := hfirst room fuel k (k + f.operators) hfuel' (by simp)
      have hfs := hmore room fuel (k + f.operators) k' (by omega) (by simp; omega)
      rw [ofPhase, Parser.moreArguments]
      refine (Outcome.current _).bind ?_
      simp only [front, hl]
      exact (Outcome.advance _ _ _).bind
        (((ofPhase_chain_iff.mp hf).imp id (by omega)).bind (Outcome.bind hfs .done))

lemma argumentsEnd (hfront : front ls ≠ .comma) :
    Followed mode size .moreArguments n ls [] ls := by
  intro room fuel k k' _ hk
  obtain rfl : k' = k := by simpa [Formula.operatorsAll] using hk
  cases fuel with
  | zero => exact .done
  | succ fuel =>
      rw [ofPhase, Parser.moreArguments]
      refine (Outcome.current _).bind ?_
      cases hf : front ls with
      | comma => exact absurd hf hfront
      | _ => exact .done

end Followed

/-- **What comes of a run.**  With `room` levels of nesting and `k` operators counted, the parser
follows a run to its end.  It stops at the limit on nesting only if the run needs more levels, and
at the limit on operators only if the run counts more of them. -/
theorem outcome_of_trace {phase : Phase} {n : Nat} {ls ns : List Lexeme} {fs : List Formula}
    (h : Trace mode phase n ls fs ns) : Followed mode size phase n ls fs ns := by
  induction h with
  | chain _ hbehind ih ih' =>
      exact .chain (by simpa using hbehind.operators_le) ih ih'
  | operator hop hright hbehind ih ih' =>
      exact .operator hop hright.suffix.length_le (by simpa using hbehind.operators_le) ih ih'
  | chainEnd hop => exact .chainEnd hop
  | plus hl _ ih => exact .plus hl ih
  | minus hl _ ih => exact .minus hl ih
  | parentheses hl _ hclose ih => exact .parentheses hl ih hclose
  | number hl => exact .number hl
  | name hl => exact .name hl
  | word hl hfront => exact .word hl hfront
  | call hl hp _ hclose ih => exact .call hl hp ih hclose
  | missing hmode hopens =>
      subst hmode
      exact .missing hopens
  | noArguments hfront => exact .noArguments hfront
  | arguments hfront _ _ ih ih' => exact .arguments hfront ih ih'
  | moreArguments hl hfirst _ ih ih' =>
      exact .moreArguments hl hfirst.suffix.length_le ih ih'
  | argumentsEnd hfront => exact .argumentsEnd hfront

end Parser

end Markbook
