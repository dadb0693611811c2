import Mathlib.Tactic.Common
import Markbook.Formula.Grammar
import Markbook.Formula.Parser

/-!
# What the parser does

The parser is a program with two counters, a token of look-ahead and, when it is lenient, two ways
to go on where the text is wrong.  Its successful runs are written down here as a relation, one rule
for each way it can go, so that whatever holds of every run is shown by an induction over the rules.

The relation leaves the counters out.  Its number bounds the nesting, and how many operators were
counted can be read off the trees.

* `Phase` — the parts in which the parser works.
* `Trace` — the successful runs, `Parser.Run` with the counter of operators.
* `sound_chain`, `sound_factor` — every success of the parser is a run.
-/

namespace Markbook

/-! ## Runs -/

/-- What the parser is about to read. -/
inductive Phase where
  /-- Operands and the operators of a level between them. -/
  | chain (level : Level)
  /-- The operators of a level behind a value, with their operands. -/
  | behind (level : Level) (left : Formula)
  | factor
  | arguments
  /-- The arguments behind the first. -/
  | moreArguments

/-- The operands of a level. -/
def Level.operand : Level → Phase
  | sum => .chain .product
  | product => .factor

/-- The operators that have been counted before a phase begins. -/
def Phase.operators : Phase → Nat
  | behind _ left => left.operators
  | _ => 0

@[simp] lemma operators_chain (level : Level) : (Phase.chain level).operators = 0 := rfl
@[simp] lemma operators_behind (level : Level) (left : Formula) :
    (Phase.behind level left).operators = left.operators := rfl
@[simp] lemma operators_factor : Phase.factor.operators = 0 := rfl
@[simp] lemma operators_arguments : Phase.arguments.operators = 0 := rfl
@[simp] lemma operators_moreArguments : Phase.moreArguments.operators = 0 := rfl

@[simp] lemma operators_operand (level : Level) : level.operand.operators = 0 := by
  cases level <;> rfl

@[simp] lemma operatorsAll_singleton (f : Formula) :
    Formula.operatorsAll [f] = f.operators := by
  simp [Formula.operatorsAll]

/-- The next token. -/
def front : List Lexeme → Token
  | [] => .eof
  | l :: _ => l.token

/-- How the parser goes past a closing parenthesis: it takes one, or makes do without. -/
inductive Closes (mode : Mode) : List Lexeme → List Lexeme → Prop
  | closed {l ls} : l.token = .rightParen → Closes mode (l :: ls) ls
  | missing {ls} : mode = .lenient → front ls ≠ .rightParen → Closes mode ls ls

/-- The runs of the parser: the phase, a bound on the nesting, the tokens before the run, the trees
it makes and the tokens that are left. -/
inductive Trace (mode : Mode) : Phase → Nat → List Lexeme → List Formula → List Lexeme → Prop
  | chain {level n ls ms ns f g} : Trace mode level.operand n ls [f] ms →
      Trace mode (.behind level f) n ms [g] ns → Trace mode (.chain level) n ls [g] ns
  | operator {level n l ls ms ns op f g h} : level.op? l.token = some op →
      Trace mode level.operand n ls [g] ms →
      Trace mode (.behind level (.binary op f g)) n ms [h] ns →
      Trace mode (.behind level f) n (l :: ls) [h] ns
  | chainEnd {level n ls f} : level.op? (front ls) = none →
      Trace mode (.behind level f) n ls [f] ls
  | plus {n l ls ms f} : l.token = .plus → Trace mode .factor n ls [f] ms →
      Trace mode .factor (n + 1) (l :: ls) [f] ms
  | minus {n l ls ms f} : l.token = .minus → Trace mode .factor n ls [f] ms →
      Trace mode .factor (n + 1) (l :: ls) [.negate f] ms
  | parentheses {n l ls ms ns f} : l.token = .leftParen →
      Trace mode (.chain .sum) n ls [f] ms → Closes mode ms ns →
      Trace mode .factor (n + 1) (l :: ls) [f] ns
  | number {n l ls x} : l.token = .number x → Trace mode .factor (n + 1) (l :: ls) [.number x] ls
  | name {n l ls m} : l.token = .name m → Trace mode .factor (n + 1) (l :: ls) [.name m] ls
  | word {n l ls text} : l.token = .word text → front ls ≠ .leftParen →
      Trace mode .factor (n + 1) (l :: ls) [.name text] ls
  | call {n l p ls ms ns text fs} : l.token = .word text → p.token = .leftParen →
      Trace mode .arguments n ls fs ms → Closes mode ms ns →
      Trace mode .factor (n + 1) (l :: p :: ls) [.call (lowerCase text) fs] ns
  | missing {n ls} : mode = .lenient → (front ls).opens = false →
      Trace mode .factor (n + 1) ls [.number 0] ls
  | noArguments {n ls} : front ls = .rightParen → Trace mode .arguments n ls [] ls
  | arguments {n ls ms ns f fs} : front ls ≠ .rightParen →
      Trace mode (.chain .sum) n ls [f] ms → Trace mode .moreArguments n ms fs ns →
      Trace mode .arguments n ls (f :: fs) ns
  | moreArguments {n l ls ms ns f fs} : l.token = .comma →
      Trace mode (.chain .sum) n ls [f] ms → Trace mode .moreArguments n ms fs ns →
      Trace mode .moreArguments n (l :: ls) (f :: fs) ns
  | argumentsEnd {n ls} : front ls ≠ .comma → Trace mode .moreArguments n ls [] ls

lemma Closes.suffix {mode : Mode} {ls ms : List Lexeme} (h : Closes mode ls ms) : ms <:+ ls := by
  cases h with
  | closed _ => exact List.suffix_cons _ _
  | missing _ _ => exact List.suffix_refl _

/-- A run takes tokens from the front. -/
lemma Trace.suffix {mode : Mode} {phase : Phase} {n : Nat} {ls ns : List Lexeme}
    {fs : List Formula} (h : Trace mode phase n ls fs ns) : ns <:+ ls := by
  induction h with
  | chain _ _ ih ih' => exact ih'.trans ih
  | operator _ _ _ ih ih' => exact (ih'.trans ih).trans (List.suffix_cons _ _)
  | plus _ _ ih => exact ih.trans (List.suffix_cons _ _)
  | minus _ _ ih => exact ih.trans (List.suffix_cons _ _)
  | parentheses _ _ hclose ih => exact (hclose.suffix.trans ih).trans (List.suffix_cons _ _)
  | call _ _ _ hclose ih =>
      exact ((hclose.suffix.trans ih).trans (List.suffix_cons _ _)).trans (List.suffix_cons _ _)
  | arguments _ _ _ ih ih' => exact ih'.trans ih
  | moreArguments _ _ _ ih ih' => exact (ih'.trans ih).trans (List.suffix_cons _ _)
  | number _ => exact List.suffix_cons _ _
  | name _ => exact List.suffix_cons _ _
  | word _ _ => exact List.suffix_cons _ _
  | chainEnd _ => exact List.suffix_refl _
  | missing _ _ => exact List.suffix_refl _
  | noArguments _ => exact List.suffix_refl _
  | argumentsEnd _ => exact List.suffix_refl _

/-- The operators counted before a phase are among those of its trees. -/
lemma Trace.operators_le {mode : Mode} {phase : Phase} {n : Nat} {ls ns : List Lexeme}
    {fs : List Formula} (h : Trace mode phase n ls fs ns) :
    phase.operators ≤ Formula.operatorsAll fs := by
  induction h with
  | operator _ _ _ _ ih =>
      simp only [operators_behind, Formula.operators, operatorsAll_singleton] at ih ⊢
      omega
  | _ => simp

/-! ## Steps of the parser -/

namespace Parser

lemma bind_of_ok {α β : Type} {p : Parser α} {q : α → Parser β} {c d : Cursor} {a : α}
    (h : p c = .ok (a, d)) : (p >>= q) c = q a d := by
  simp [bind, StateT.bind, Except.bind, h]

lemma bind_of_error {α β : Type} {p : Parser α} {q : α → Parser β} {c : Cursor} {e : ParseError}
    (h : p c = .error e) : (p >>= q) c = .error e := by
  simp [bind, StateT.bind, Except.bind, h]

/-- A parser followed by another succeeds exactly when both do, one after the other. -/
lemma bind_eq_ok {α β : Type} {p : Parser α} {q : α → Parser β} {c e : Cursor} {b : β} :
    (p >>= q) c = .ok (b, e) ↔ ∃ a d, p c = .ok (a, d) ∧ q a d = .ok (b, e) := by
  cases hp : p c with
  | error cause => simp [bind_of_error hp]
  | ok r =>
      obtain ⟨a, d⟩ := r
      simp [bind_of_ok hp]

lemma pure_eq_ok {α : Type} {a b : α} {c d : Cursor} :
    (pure a : Parser α) c = .ok (b, d) ↔ a = b ∧ c = d := by
  show (Except.ok (a, c) : Except _ _) = .ok (b, d) ↔ _
  rw [Except.ok.injEq, Prod.mk.injEq]

lemma throw_ne_ok {α : Type} {e : ParseError} {a : α} {c d : Cursor} :
    (throw e : Parser α) c ≠ .ok (a, d) := by
  intro h
  cases h

lemma get_apply (c : Cursor) : (get : Parser Cursor) c = .ok (c, c) := rfl

lemma current_apply (c : Cursor) : current c = .ok (front c.rest, c) := by
  obtain ⟨rest, operators⟩ := c
  cases rest <;> rfl

lemma advance_apply (c : Cursor) : advance c = .ok ((), ⟨c.rest.tail, c.operators⟩) := rfl

lemma countOperator_apply (c : Cursor) : countOperator c =
    if c.operators < maxOperators then .ok ((), ⟨c.rest, c.operators + 1⟩)
    else .error .tooManyOperators := by
  simp only [countOperator, bind, StateT.bind, Except.bind, get, getThe, MonadStateOf.get,
    StateT.get, pure, Except.pure]
  split_ifs <;> rfl

lemma countOperator_eq_ok {c d : Cursor} {u : Unit} : countOperator c = .ok (u, d) ↔
    c.operators < maxOperators ∧ d = ⟨c.rest, c.operators + 1⟩ := by
  rw [countOperator_apply]
  split_ifs with h
  · simp [h, eq_comm]
  · simp [h]

/-! ## Runs with the counter -/

/-- A run together with the counter of operators. -/
structure Run (mode : Mode) (phase : Phase) (n : Nat) (c : Cursor) (fs : List Formula)
    (d : Cursor) : Prop where
  trace : Trace mode phase n c.rest fs d.rest
  counted : d.operators + phase.operators = c.operators + Formula.operatorsAll fs
  limited : c.operators ≤ maxOperators → d.operators ≤ maxOperators

namespace Run

variable {mode : Mode} {level : Level} {phase : Phase} {n k : Nat} {l p : Lexeme}
  {ls ms : List Lexeme} {op : BinaryOp} {f g h : Formula} {fs : List Formula} {text : String}
  {c d e : Cursor}

/-- A run without an operator. -/
lemma uncounted (htrace : Trace mode phase n ls fs ms)
    (hcounted : phase.operators = Formula.operatorsAll fs) :
    Run mode phase n ⟨ls, k⟩ fs ⟨ms, k⟩ :=
  ⟨htrace, by rw [hcounted], id⟩

lemma chain (hfirst : Run mode level.operand n c [f] d)
    (hbehind : Run mode (.behind level f) n d [g] e) : Run mode (.chain level) n c [g] e := by
  refine ⟨.chain hfirst.trace hbehind.trace, ?_, fun hc => hbehind.limited (hfirst.limited hc)⟩
  have hcounted := hfirst.counted
  have hcounted' := hbehind.counted
  simp only [operators_operand, operators_behind, operators_chain, operatorsAll_singleton]
    at hcounted hcounted' ⊢
  omega

lemma operator (hop : level.op? l.token = some op) (hk : k < maxOperators)
    (hright : Run mode level.operand n ⟨ls, k + 1⟩ [g] d)
    (hbehind : Run mode (.behind level (.binary op f g)) n d [h] e) :
    Run mode (.behind level f) n ⟨l :: ls, k⟩ [h] e := by
  refine ⟨.operator hop hright.trace hbehind.trace, ?_,
    fun _ => hbehind.limited (hright.limited hk)⟩
  have hcounted := hright.counted
  have hcounted' := hbehind.counted
  simp only [operators_operand, operators_behind, operatorsAll_singleton, Formula.operators]
    at hcounted hcounted' ⊢
  omega

lemma plus (hl : l.token = .plus) (hrun : Run mode .factor n ⟨ls, k⟩ [f] d) :
    Run mode .factor (n + 1) ⟨l :: ls, k⟩ [f] d :=
  ⟨.plus hl hrun.trace, hrun.counted, hrun.limited⟩

lemma minus (hl : l.token = .minus) (hk : k < maxOperators)
    (hrun : Run mode .factor n ⟨ls, k + 1⟩ [f] d) :
    Run mode .factor (n + 1) ⟨l :: ls, k⟩ [.negate f] d := by
  refine ⟨.minus hl hrun.trace, ?_, fun _ => hrun.limited hk⟩
  have hcounted := hrun.counted
  simp only [operators_factor, operatorsAll_singleton, Formula.operators] at hcounted ⊢
  omega

lemma parentheses (hl : l.token = .leftParen) (hrun : Run mode (.chain .sum) n ⟨ls, k⟩ [f] d)
    (hclose : Closes mode d.rest e.rest) (hsame : e.operators = d.operators) :
    Run mode .factor (n + 1) ⟨l :: ls, k⟩ [f] e :=
  ⟨.parentheses hl hrun.trace hclose, hsame ▸ hrun.counted, hsame ▸ hrun.limited⟩

lemma call (hl : l.token = .word text) (hp : p.token = .leftParen) (hk : k < maxOperators)
    (hrun : Run mode .arguments n ⟨ls, k + 1⟩ fs d) (hclose : Closes mode d.rest e.rest)
    (hsame : e.operators = d.operators) :
    Run mode .factor (n + 1) ⟨l :: p :: ls, k⟩ [.call (lowerCase text) fs] e := by
  refine ⟨.call hl hp hrun.trace hclose, ?_, fun _ => hsame ▸ hrun.limited hk⟩
  have hcounted := hrun.counted
  simp only [operators_arguments, operators_factor, operatorsAll_singleton, Formula.operators,
    hsame] at hcounted ⊢
  omega

lemma arguments (hfront : front c.rest ≠ .rightParen)
    (hfirst : Run mode (.chain .sum) n c [f] d) (hmore : Run mode .moreArguments n d fs e) :
    Run mode .arguments n c (f :: fs) e := by
  refine ⟨.arguments hfront hfirst.trace hmore.trace, ?_,
    fun hc => hmore.limited (hfirst.limited hc)⟩
  have hcounted := hfirst.counted
  have hcounted' := hmore.counted
  simp only [operators_chain, operators_moreArguments, operators_arguments,
    Formula.operatorsAll] at hcounted hcounted' ⊢
  omega

lemma moreArguments (hl : l.token = .comma) (hfirst : Run mode (.chain .sum) n ⟨ls, k⟩ [f] d)
    (hmore : Run mode .moreArguments n d fs e) :
    Run mode .moreArguments n ⟨l :: ls, k⟩ (f :: fs) e := by
  refine ⟨.moreArguments hl hfirst.trace hmore.trace, ?_,
    fun hk => hmore.limited (hfirst.limited hk)⟩
  have hcounted := hfirst.counted
  have hcounted' := hmore.counted
  simp only [operators_chain, operators_moreArguments, Formula.operatorsAll]
    at hcounted hcounted' ⊢
  omega

end Run

/-! ## Successes are runs -/

/-- All successes of a parser are runs. -/
def Sound (mode : Mode) (phase : Phase) (n : Nat) {α : Type} (trees : α → List Formula)
    (p : Parser α) : Prop :=
  ∀ c a d, p c = .ok (a, d) → Run mode phase n c (trees a) d

variable {mode : Mode} {size n : Nat}

/-- A token that is not the end is the first that is left. -/
lemma exists_of_front {c : Cursor} {t : Token} (h : front c.rest = t) (ht : t ≠ .eof) :
    ∃ l ls k, c = ⟨l :: ls, k⟩ ∧ l.token = t := by
  obtain ⟨rest, k⟩ := c
  cases rest with
  | nil => exact absurd h.symm ht
  | cons l ls => exact ⟨l, ls, k, rfl, h⟩

/-- Counting an operator and going past it. -/
lemma counted_eq_ok {α : Type} {p : Parser α} {l : Lexeme} {ls : List Lexeme} {k : Nat} {a : α}
    {d : Cursor} : (do countOperator; advance; p : Parser α) ⟨l :: ls, k⟩ = .ok (a, d) ↔
      k < maxOperators ∧ p ⟨ls, k + 1⟩ = .ok (a, d) := by
  constructor
  · intro h
    obtain ⟨_, c, hcount, h⟩ := bind_eq_ok.mp h
    obtain ⟨hk, rfl⟩ := countOperator_eq_ok.mp hcount
    exact ⟨hk, h⟩
  · rintro ⟨hk, h⟩
    rw [bind_of_ok (a := ()) (countOperator_eq_ok.mpr ⟨hk, rfl⟩)]
    exact h

lemma op?_eof (level : Level) : level.op? .eof = none := by
  cases level <;> rfl

/-- The operators behind a value.  The induction is on the bound; when it is used up there are no
tokens left. -/
lemma sound_chainFrom {level : Level} {operand : Parser Formula}
    (hoperand : Sound mode level.operand n ([·]) operand) :
    ∀ (fuel : Nat) (left : Formula) (c : Cursor) (f : Formula) (d : Cursor),
      c.rest.length ≤ fuel → chainFrom level.op? operand fuel left c = .ok (f, d) →
      Run mode (.behind level left) n c [f] d
  | 0, left, c, f, d, hfuel, h => by
      obtain ⟨rfl, rfl⟩ := pure_eq_ok.mp h
      have hrest : c.rest = [] := List.length_eq_zero_iff.mp (by omega)
      exact .uncounted (.chainEnd (by rw [hrest]; exact op?_eof level)) (by simp)
  | fuel + 1, left, c, f, d, hfuel, h => by
      rw [chainFrom, bind_of_ok (current_apply c)] at h
      cases hop : level.op? (front c.rest) with
      | none =>
          simp only [hop] at h
          obtain ⟨rfl, rfl⟩ := pure_eq_ok.mp h
          exact .uncounted (.chainEnd hop) (by simp)
      | some op =>
          simp only [hop] at h
          have hne : front c.rest ≠ .eof := fun he => by simp [he, op?_eof] at hop
          obtain ⟨l, ls, k, rfl, hl⟩ := exists_of_front rfl hne
          obtain ⟨hk, h⟩ := counted_eq_ok.mp h
          obtain ⟨right, c', hright, h⟩ := bind_eq_ok.mp h
          have hrun := hoperand _ _ _ hright
          have hlength : c'.rest.length ≤ fuel :=
            Nat.le_trans hrun.trace.suffix.length_le (Nat.le_of_succ_le_succ hfuel)
          exact .operator hop hk hrun (sound_chainFrom hoperand fuel _ c' f d hlength h)

lemma sound_chain {level : Level} {operand : Parser Formula}
    (hoperand : Sound mode level.operand n ([·]) operand) :
    Sound mode (.chain level) n ([·]) (chain level.op? operand) := by
  intro c f e h
  obtain ⟨left, d, hleft, h⟩ := bind_eq_ok.mp h
  exact .chain (hoperand _ _ _ hleft)
    (sound_chainFrom hoperand d.rest.length left d f e (Nat.le_refl _) h)

lemma closes_of_close {c d : Cursor} {u : Unit} (h : close mode size c = .ok (u, d)) :
    Closes mode c.rest d.rest ∧ d.operators = c.operators := by
  rw [close, bind_of_ok (current_apply c)] at h
  cases hfront : front c.rest with
  | rightParen =>
      simp only [hfront] at h
      obtain ⟨l, ls, k, rfl, hl⟩ := exists_of_front hfront (by simp)
      rw [advance_apply] at h
      cases h
      exact ⟨.closed hl, rfl⟩
  | _ =>
      simp only [hfront] at h
      cases mode with
      | lenient =>
          obtain ⟨_, rfl⟩ := pure_eq_ok.mp h
          exact ⟨.missing rfl (by simp [hfront]), rfl⟩
      | strict =>
          obtain ⟨_, _, _, h⟩ := bind_eq_ok.mp h
          exact absurd h throw_ne_ok

/-- The arguments behind the first, by induction on the bound. -/
lemma sound_moreArguments {argument : Parser Formula}
    (hargument : Sound mode (.chain .sum) n ([·]) argument) :
    ∀ (fuel : Nat) (c : Cursor) (fs : List Formula) (d : Cursor), c.rest.length ≤ fuel →
      moreArguments argument fuel c = .ok (fs, d) → Run mode .moreArguments n c fs d
  | 0, c, fs, d, hfuel, h => by
      obtain ⟨rfl, rfl⟩ := pure_eq_ok.mp h
      have hrest : c.rest = [] := List.length_eq_zero_iff.mp (by omega)
      exact .uncounted (.argumentsEnd (by simp [hrest, front])) (by simp [Formula.operatorsAll])
  | fuel + 1, c, fs, d, hfuel, h => by
      rw [moreArguments, bind_of_ok (current_apply c)] at h
      cases hfront : front c.rest with
      | comma =>
          simp only [hfront] at h
          obtain ⟨l, ls, k, rfl, hl⟩ := exists_of_front hfront (by simp)
          rw [bind_of_ok (advance_apply _)] at h
          obtain ⟨first, c', hfirst, h⟩ := bind_eq_ok.mp h
          obtain ⟨rest, c'', hrest, h⟩ := bind_eq_ok.mp h
          obtain ⟨rfl, rfl⟩ := pure_eq_ok.mp h
          have hrun := hargument _ _ _ hfirst
          have hlength : c'.rest.length ≤ fuel :=
            Nat.le_trans hrun.trace.suffix.length_le (Nat.le_of_succ_le_succ hfuel)
          exact .moreArguments hl hrun (sound_moreArguments hargument fuel c' rest _ hlength hrest)
      | _ =>
          simp only [hfront] at h
          obtain ⟨rfl, rfl⟩ := pure_eq_ok.mp h
          exact .uncounted (.argumentsEnd (by simp [hfront])) (by simp [Formula.operatorsAll])

lemma sound_arguments {argument : Parser Formula}
    (hargument : Sound mode (.chain .sum) n ([·]) argument) :
    Sound mode .arguments n id (arguments argument) := by
  intro c fs d h
  rw [arguments, bind_of_ok (current_apply c)] at h
  cases hfront : front c.rest with
  | rightParen =>
      simp only [hfront] at h
      obtain ⟨rfl, rfl⟩ := pure_eq_ok.mp h
      exact .uncounted (.noArguments hfront) (by simp [Formula.operatorsAll])
  | _ =>
      simp only [hfront] at h
      obtain ⟨first, c', hfirst, h⟩ := bind_eq_ok.mp h
      rw [bind_of_ok (get_apply c')] at h
      obtain ⟨rest, c'', hrest, h⟩ := bind_eq_ok.mp h
      obtain ⟨rfl, rfl⟩ := pure_eq_ok.mp h
      exact .arguments (by simp [hfront]) (hargument _ _ _ hfirst)
        (sound_moreArguments hargument _ c' rest _ (Nat.le_refl _) hrest)

section

variable {deeper : Parser Formula} (hdeeper : Sound mode .factor n ([·]) deeper)
include hdeeper

lemma sound_expression : Sound mode (.chain .sum) n ([·]) (expression deeper) :=
  @sound_chain mode n .sum _ (@sound_chain mode n .product _ hdeeper)

/-- A call, from its opening parenthesis on. -/
lemma run_of_call {text : String} {l p : Lexeme} {ls : List Lexeme} {k : Nat} {f : Formula}
    {e : Cursor} (hl : l.token = .word text) (hp : p.token = .leftParen)
    (h : (do
      countOperator
      advance
      let args ← arguments (expression deeper)
      close mode size
      return .call (lowerCase text) args : Parser Formula) ⟨p :: ls, k⟩ = .ok (f, e)) :
    Run mode .factor (n + 1) ⟨l :: p :: ls, k⟩ [f] e := by
  obtain ⟨hk, h⟩ := counted_eq_ok.mp h
  obtain ⟨fs, d, hfs, h⟩ := bind_eq_ok.mp h
  obtain ⟨_, d', hclose, h⟩ := bind_eq_ok.mp h
  obtain ⟨rfl, rfl⟩ := pure_eq_ok.mp h
  obtain ⟨hcloses, hsame⟩ := closes_of_close hclose
  exact .call hl hp hk (sound_arguments (sound_expression hdeeper) _ _ _ hfs) hcloses hsame

lemma sound_operand : Sound mode .factor (n + 1) ([·]) (operand mode size deeper) := by
  intro c f e h
  rw [operand, bind_of_ok (current_apply c)] at h
  cases hfront : front c.rest with
  | plus =>
      simp only [hfront] at h
      obtain ⟨l, ls, k, rfl, hl⟩ := exists_of_front hfront (by simp)
      rw [bind_of_ok (advance_apply _)] at h
      exact .plus hl (hdeeper _ _ _ h)
  | minus =>
      simp only [hfront] at h
      obtain ⟨l, ls, k, rfl, hl⟩ := exists_of_front hfront (by simp)
      obtain ⟨hk, h⟩ := counted_eq_ok.mp h
      obtain ⟨inner, d, hinner, h⟩ := bind_eq_ok.mp h
      obtain ⟨rfl, rfl⟩ := pure_eq_ok.mp h
      exact .minus hl hk (hdeeper _ _ _ hinner)
  | leftParen =>
      simp only [hfront] at h
      obtain ⟨l, ls, k, rfl, hl⟩ := exists_of_front hfront (by simp)
      rw [bind_of_ok (advance_apply _)] at h
      obtain ⟨inner, d, hinner, h⟩ := bind_eq_ok.mp h
      obtain ⟨_, d', hclose, h⟩ := bind_eq_ok.mp h
      obtain ⟨rfl, rfl⟩ := pure_eq_ok.mp h
      obtain ⟨hcloses, hsame⟩ := closes_of_close hclose
      exact .parentheses hl (sound_expression hdeeper _ _ _ hinner) hcloses hsame
  | number x =>
      simp only [hfront] at h
      obtain ⟨l, ls, k, rfl, hl⟩ := exists_of_front hfront (by simp)
      obtain ⟨rfl, rfl⟩ := pure_eq_ok.mp h
      exact .uncounted (.number hl) (by simp [Formula.operators])
  | name m =>
      simp only [hfront] at h
      obtain ⟨l, ls, k, rfl, hl⟩ := exists_of_front hfront (by simp)
      obtain ⟨rfl, rfl⟩ := pure_eq_ok.mp h
      exact .uncounted (.name hl) (by simp [Formula.operators])
  | word text =>
      simp only [hfront] at h
      obtain ⟨l, ls, k, rfl, hl⟩ := exists_of_front hfront (by simp)
      rw [bind_of_ok (advance_apply _), bind_of_ok (current_apply _)] at h
      cases hnext : front ls with
      | leftParen =>
          simp only [List.tail_cons, hnext] at h
          obtain ⟨p, ms, k, hms, hp⟩ := exists_of_front (c := ⟨ls, k⟩) hnext (by simp)
          cases hms
          exact run_of_call hdeeper hl hp h
      | _ =>
          simp only [List.tail_cons, hnext] at h
          obtain ⟨rfl, rfl⟩ := pure_eq_ok.mp h
          exact .uncounted (.word hl (by simp [hnext])) (by simp [Formula.operators])
  | _ =>
      simp only [hfront] at h
      cases mode with
      | lenient =>
          obtain ⟨rfl, rfl⟩ := pure_eq_ok.mp h
          exact .uncounted (.missing rfl (by simp [hfront, Token.opens]))
            (by simp [Formula.operators])
      | strict =>
          obtain ⟨_, _, _, h⟩ := bind_eq_ok.mp h
          exact absurd h throw_ne_ok

end

/-- **Every success of the parser is a run**, with as many levels of nesting as the parser has
left. -/
theorem sound_factor : ∀ room, Sound mode .factor room ([·]) (factor mode size room)
  | 0 => fun _ _ _ h => absurd h throw_ne_ok
  | room + 1 => sound_operand (sound_factor room)

end Parser

end Markbook
