import Markbook.Formula.Descent
import Markbook.Proofs.Formula.Outcome
import Markbook.Proofs.Formula.Scanner

/-!
# Reading in place gives the same formula

The parser that works on a scanner does at every step what the one on a list of tokens does.  The
list never comes up in it: its first token is the one in hand, and the others are those that the
scanner would cut from the rest of the text.  The levels of nesting that are left come up as the
depth that has been counted.

So it inherits an end.  The recursion on lists comes to one because a level of nesting is spent
whenever an operand lies in another, and because a chain takes a token with every operator that it
goes on with.  An operand that is missing takes none, but it has no part that could be missing.

* `Follows` — a scan that comes out as a parser does, `Tracks` from all states that correspond.
* `tracks_factor` — **reading in place follows the grammar**.
* `ends_formula` — reading a text in place and reading its tokens come out the same.
-/

namespace Markbook

namespace Scan

/-! ## Following a parser -/

/-- The scanner stands where the cursor does: it has the same tokens left and has counted as many
operators, and there is `room` for as many levels of nesting. -/
structure Stands (text : String) (names : List String) (room : Nat) (s : Scanner)
    (c : Cursor) : Prop where
  inHand : InHand text names s c.rest
  operators : s.operators = c.operators
  depth : s.depth + room = maxNesting

section

variable (text : String) (names : List String) (room : Nat) {α : Type}

/-- The scan comes to the end that the result of a parser says. -/
inductive Follows (p : Nat → Scan α) (s : Scanner) : Except ParseError (α × Cursor) → Prop
  | ok {a d s'} : Ends p s (.ok a) s' → Stands text names room s' d → Follows p s (.ok (a, d))
  | error {e s'} : Ends p s (.error (.refused (.parse e))) s' → Follows p s (.error e)

/-- The scan comes out as the parser does, with `room` levels of nesting left for both. -/
def Tracks (p : Nat → Scan α) (q : Parser α) : Prop :=
  ∀ s c, Stands text names room s c → Follows text names room p s (q c)

end

section

variable {text : String} {names : List String} {α β : Type} {p : Nat → Scan α}
  {k : Nat → α → Scan β} {q : Parser α} {l : α → Parser β} {s : Scanner} {c : Cursor} {room : Nat}

/-- Without tokens left the scanner has the end of the text in hand. -/
lemma Stands.token_eq_eof (h : Stands text names room s c) (hrest : c.rest.length ≤ 0) :
    s.token = .eof := by
  rw [← h.inHand.front_eq, List.length_eq_zero_iff.mp (Nat.le_zero.mp hrest)]
  rfl

lemma Follows.bind (hp : Follows text names room p s (q c))
    (hk : ∀ a d s', q c = .ok (a, d) → Stands text names room s' d →
      Follows text names room (fun n => k n a) s' (l a d)) :
    Follows text names room (fun n => p n >>= k n) s ((q >>= l) c) := by
  cases hq : q c with
  | error e =>
      rw [hq] at hp
      rw [Parser.bind_of_error hq]
      cases hp with
      | error hends => exact .error hends.bind_error
  | ok r =>
      obtain ⟨a, d⟩ := r
      rw [hq] at hp
      rw [Parser.bind_of_ok hq]
      cases hp with
      | ok hends hstands =>
          have hrest := hk a d _ hq hstands
          cases hl : l a d with
          | error e =>
              rw [hl] at hrest
              cases hrest with
              | error hends' => exact .error (hends.bind hends')
          | ok r =>
              rw [hl] at hrest
              cases hrest with
              | ok hends' hstands' => exact .ok (hends.bind hends') hstands'

lemma Follows.next {r : Except ParseError (α × Cursor)}
    (h : Follows text names room (fun n => p (n + 1)) s r) : Follows text names room p s r := by
  cases h with
  | ok hends hstands => exact .ok hends.next hstands
  | error hends => exact .error hends.next

lemma Tracks.bind (hp : Tracks text names room p q)
    (hk : ∀ a, Tracks text names room (fun n => k n a) (l a)) :
    Tracks text names room (fun n => p n >>= k n) (q >>= l) :=
  fun s c hstands => (hp s c hstands).bind fun a d s' _ hstands' => hk a s' d hstands'

lemma Tracks.next (h : Tracks text names room (fun n => p (n + 1)) q) :
    Tracks text names room p q :=
  fun s c hstands => (h s c hstands).next

lemma tracks_pure (a : α) : Tracks text names room (fun _ => pure a) (pure a) :=
  fun _ _ hstands => .ok (ends_of_run run_pure) hstands

lemma run_current : current.run s = some (.ok s.token, s) := rfl

lemma tracks_current : Tracks text names room (fun _ => current) Parser.current := by
  intro s c hstands
  rw [Parser.current_apply, hstands.inHand.front_eq]
  exact .ok (ends_of_run run_current) hstands

/-- Refusing what stands at the place of the token in hand. -/
lemma tracks_refuse_at (e : Nat → ParseError) :
    Tracks text names room (fun _ => (do refuse (e (← get).start) : Scan α))
      (do throw (e (← Parser.offset text.utf8ByteSize))) := by
  intro s c hstands
  rw [Parser.bind_of_ok (hstands.inHand.offset_apply c.operators)]
  exact .error (ends_of_run rfl)

lemma tracks_countOperator :
    Tracks text names room (fun _ => countOperator) Parser.countOperator := by
  intro s c hstands
  have hcount : s.count.operators = c.operators + 1 := congrArg (· + 1) hstands.operators
  have hrun : countOperator.run s = (if maxOperators < s.count.operators
      then refuse .tooManyOperators else pure () : Scan Unit).run s.count := by
    rw [countOperator, run_modify_bind, run_get_bind]
  rw [hcount] at hrun
  rw [Parser.countOperator_apply]
  split_ifs with hlt
  · rw [if_neg (Nat.not_lt.mpr hlt)] at hrun
    exact .ok (ends_of_run hrun) ⟨hstands.inHand.congr rfl rfl rfl, hcount, hstands.depth⟩
  · rw [if_pos (Nat.lt_succ_of_le (Nat.le_of_not_lt hlt))] at hrun
    exact .error (ends_of_run hrun)

end

/-! ## Levels of nesting -/

section

variable {mode : Mode} {text : String} {names : List String} {s s' : Scanner}

lemma ends_factor_too_deep (h : maxNesting ≤ s.depth) :
    Ends (factor mode text names) s (.error (.refused (.parse .tooDeep))) s.enter := by
  refine .next ⟨0, fun m _ => ?_⟩
  show (factor mode text names (m + 1)).run s = _
  rw [factor]
  show (if maxNesting < s.depth + 1 then _ else _ : StateT Scanner Option _) s.enter = _
  rw [if_pos (Nat.lt_succ_of_le h)]
  rfl

/-- An operand enters a level and leaves it whatever becomes of it. -/
lemma ends_factor {r : Except Halt Formula} (hdepth : s.depth < maxNesting)
    (h : Ends (primary mode text names) s.enter r s') :
    Ends (factor mode text names) s r s'.leave := by
  obtain ⟨n, h⟩ := h
  refine .next ⟨n, fun m hm => ?_⟩
  show (factor mode text names (m + 1)).run s = _
  rw [factor]
  show (if maxNesting < s.depth + 1 then _ else _ : StateT Scanner Option _) s.enter = _
  rw [if_neg (Nat.not_lt.mpr hdepth)]
  show ((primary mode text names m).run s.enter >>= fun r => some (r.1, r.2.leave)) = _
  rw [h m hm]
  rfl

end

/-! ## Following the grammar -/

section

variable {text : String} {names : List String} {mode : Mode} {level : Level} {room : Nat}
  (hnames : ∀ n ∈ names, n.toList ≠ [])
include hnames

lemma tracks_advance : Tracks text names room (advance text names) Parser.advance := by
  intro s c hstands
  obtain ⟨u, v, hbetween, hrest⟩ := hstands.inHand.exists_between
  obtain ⟨s', hends, hinHand, _, hdepth, hoperators⟩ := ends_advance hnames hbetween
  rw [hrest] at hinHand
  exact .ok hends ⟨hinHand, hoperators.trans hstands.operators, hdepth ▸ hstands.depth⟩

lemma tracks_close :
    Tracks text names room (close mode text names) (Parser.close mode text.utf8ByteSize) := by
  rw [Parser.close]
  refine tracks_current.bind fun found => ?_
  cases found with
  | rightParen => exact tracks_advance hnames
  | _ =>
      cases mode with
      | lenient => exact tracks_pure ()
      | strict => exact tracks_refuse_at (.unclosed · _)

/-- The operators behind a value.  The induction is on the bound of the parser, which is used up
only when there are no tokens left. -/
lemma follows_behind {q : Parser Formula}
    (hsound : Parser.Sound mode level.operand room ([·]) q)
    (hq : Tracks text names room (operand mode text names level) q) :
    ∀ (fuel : Nat) (left : Formula) (s : Scanner) (c : Cursor), Stands text names room s c →
      c.rest.length ≤ fuel → Follows text names room (behind mode text names level left) s
        (Parser.chainFrom level.op? q fuel left c)
  | 0, left, s, c, hstands, hfuel => by
      have htoken := hstands.token_eq_eof hfuel
      have hrun : ∀ n, (behind mode text names level left (n + 1)).run s = some (.ok left, s) := by
        intro n
        rw [behind, run_bind_of_ok run_current, htoken, Parser.op?_eof]
        rfl
      exact .ok (.next ⟨0, fun n _ => hrun n⟩) hstands
  | fuel + 1, left, s, c, hstands, hfuel => by
      rw [Parser.chainFrom]
      refine .next ?_
      simp only [behind]
      refine (tracks_current s c hstands).bind fun t c' s' hcurrent hstands' => ?_
      rw [Parser.current_apply] at hcurrent
      cases hcurrent
      cases level.op? (front c.rest) with
      | none => exact tracks_pure left s' c hstands'
      | some op =>
          refine (tracks_countOperator s' c hstands').bind fun _ c₁ s₁ hcount hstands₁ => ?_
          refine (tracks_advance hnames s₁ c₁ hstands₁).bind fun _ c₂ s₂ hadvance hstands₂ => ?_
          refine (hq s₂ c₂ hstands₂).bind fun right c₃ s₃ hright hstands₃ => ?_
          obtain ⟨_, rfl⟩ := Parser.countOperator_eq_ok.mp hcount
          cases hadvance
          have hlength := (hsound _ _ _ hright).trace.suffix.length_le
          simp only [List.length_tail] at hlength
          exact follows_behind hsound hq fuel _ s₃ c₃ hstands₃ (by omega)

lemma tracks_chain {q : Parser Formula} (hsound : Parser.Sound mode level.operand room ([·]) q)
    (hq : Tracks text names room (operand mode text names level) q) :
    Tracks text names room (chain mode text names level) (Parser.chain level.op? q) := by
  intro s c hstands
  rw [Parser.chain]
  refine .next ?_
  simp only [chain]
  refine (hq s c hstands).bind fun left d s' _ hstands' => ?_
  rw [Parser.bind_of_ok (Parser.get_apply d)]
  exact follows_behind hnames hsound hq _ left s' d hstands' (Nat.le_refl _)

/-- The arguments behind the first, again by induction on the bound of the parser. -/
lemma follows_moreArguments {q : Parser Formula}
    (hsound : Parser.Sound mode (.chain .sum) room ([·]) q)
    (hq : Tracks text names room (chain mode text names .sum) q) :
    ∀ (fuel : Nat) (s : Scanner) (c : Cursor), Stands text names room s c →
      c.rest.length ≤ fuel → Follows text names room (moreArguments mode text names) s
        (Parser.moreArguments q fuel c)
  | 0, s, c, hstands, hfuel => by
      have htoken := hstands.token_eq_eof hfuel
      have hrun : ∀ n, (moreArguments mode text names (n + 1)).run s = some (.ok [], s) := by
        intro n
        rw [moreArguments, run_bind_of_ok run_current, htoken]
        rfl
      exact .ok (.next ⟨0, fun n _ => hrun n⟩) hstands
  | fuel + 1, s, c, hstands, hfuel => by
      rw [Parser.moreArguments]
      refine .next ?_
      simp only [moreArguments]
      refine (tracks_current s c hstands).bind fun t c' s' hcurrent hstands' => ?_
      rw [Parser.current_apply] at hcurrent
      cases hcurrent
      cases front c.rest with
      | comma =>
          refine (tracks_advance hnames s' c hstands').bind fun _ c₁ s₁ hadvance hstands₁ => ?_
          refine (hq s₁ c₁ hstands₁).bind fun first c₂ s₂ hfirst hstands₂ => ?_
          cases hadvance
          have hlength := (hsound _ _ _ hfirst).trace.suffix.length_le
          simp only [List.length_tail] at hlength
          exact (follows_moreArguments hsound hq fuel s₂ c₂ hstands₂ (by omega)).bind
            fun rest c₃ s₃ _ => tracks_pure (first :: rest) s₃ c₃
      | _ => exact tracks_pure [] s' c hstands'

lemma tracks_arguments {q : Parser Formula}
    (hsound : Parser.Sound mode (.chain .sum) room ([·]) q)
    (hq : Tracks text names room (chain mode text names .sum) q) :
    Tracks text names room (arguments mode text names) (Parser.arguments q) := by
  rw [Parser.arguments]
  refine .next ?_
  simp only [arguments]
  refine tracks_current.bind fun t => ?_
  have hfirst : Tracks text names room
      (fun n => do return (← chain mode text names .sum n) :: (← moreArguments mode text names n))
      (do return (← q) :: (← Parser.moreArguments q (← get).rest.length)) := by
    refine hq.bind fun first s c hstands => ?_
    rw [Parser.bind_of_ok (Parser.get_apply c)]
    exact (follows_moreArguments hnames hsound hq _ s c hstands (Nat.le_refl _)).bind
      fun rest c' s' _ => tracks_pure (first :: rest) s' c'
  cases t with
  | rightParen => exact tracks_pure []
  | _ => exact hfirst

/-! ### Operands -/

section

variable {deeper : Parser Formula} (hsound : Parser.Sound mode .factor room ([·]) deeper)
  (hdeeper : Tracks text names room (factor mode text names) deeper)
include hsound hdeeper

lemma tracks_expression :
    Tracks text names room (chain mode text names .sum) (Parser.expression deeper) := by
  have hproduct : Tracks text names room (operand mode text names .product) deeper := by
    refine .next ?_
    simp only [operand]
    exact hdeeper
  have hsum : Tracks text names room (operand mode text names .sum) (Parser.term deeper) := by
    refine .next ?_
    simp only [operand]
    exact @tracks_chain text names mode .product room hnames _ hsound hproduct
  have hterm : Parser.Sound mode (.chain .product) room ([·]) (Parser.term deeper) :=
    @Parser.sound_chain mode room .product _ hsound
  exact @tracks_chain text names mode .sum room hnames _ hterm hsum

lemma tracks_call (function : String) :
    Tracks text names room (call mode text names function) (do
      Parser.countOperator
      Parser.advance
      let args ← Parser.arguments (Parser.expression deeper)
      Parser.close mode text.utf8ByteSize
      return .call (lowerCase function) args) := by
  refine .next ?_
  simp only [call]
  have hargument := tracks_expression hnames hsound hdeeper
  exact tracks_countOperator.bind fun _ => (tracks_advance hnames).bind fun _ =>
    (tracks_arguments hnames (Parser.sound_expression hsound) hargument).bind fun args =>
      (tracks_close hnames).bind fun _ => tracks_pure _

lemma tracks_primary : Tracks text names room (primary mode text names)
    (Parser.operand mode text.utf8ByteSize deeper) := by
  rw [Parser.operand]
  refine .next ?_
  simp only [primary]
  refine tracks_current.bind fun t => ?_
  cases t with
  | plus => exact (tracks_advance hnames).bind fun _ => hdeeper
  | minus =>
      exact tracks_countOperator.bind fun _ => (tracks_advance hnames).bind fun _ =>
        hdeeper.bind fun _ => tracks_pure _
  | leftParen =>
      exact (tracks_advance hnames).bind fun _ => (tracks_expression hnames hsound hdeeper).bind
        fun inner => (tracks_close hnames).bind fun _ => tracks_pure inner
  | number x => exact (tracks_advance hnames).bind fun _ => tracks_pure _
  | name n => exact (tracks_advance hnames).bind fun _ => tracks_pure _
  | word function =>
      refine (tracks_advance hnames).bind fun _ => tracks_current.bind fun next => ?_
      cases next with
      | leftParen => exact tracks_call hnames hsound hdeeper function
      | _ => exact tracks_pure _
  | _ =>
      cases mode with
      | lenient => exact tracks_pure _
      | strict => exact tracks_refuse_at (.unexpected · _)

end

/-- **Reading in place follows the grammar.**  The induction is on the levels of nesting that are
left. -/
theorem tracks_factor : ∀ room, Tracks text names room (factor mode text names)
    (Parser.factor mode text.utf8ByteSize room)
  | 0 => fun s c hstands =>
      .error (ends_factor_too_deep (Nat.le_of_eq hstands.depth.symm))
  | room + 1 => by
      intro s c hstands
      have hdepth := hstands.depth
      have hroom : s.depth < maxNesting := by omega
      have henter : Stands text names room s.enter c :=
        ⟨hstands.inHand.congr rfl rfl rfl, hstands.operators, by rw [enter_depth]; omega⟩
      have hprimary := tracks_primary hnames (Parser.sound_factor room) (tracks_factor room)
        s.enter c henter
      rw [Parser.factor]
      cases hresult : Parser.operand mode text.utf8ByteSize
          (Parser.factor mode text.utf8ByteSize room) c with
      | error e =>
          rw [hresult] at hprimary
          cases hprimary with
          | error hends => exact .error (ends_factor hroom hends)
      | ok r =>
          rw [hresult] at hprimary
          cases hprimary with
          | @ok f d s' hends hstands' =>
              have hdepth' := hstands'.depth
              have hleave : Stands text names (room + 1) s'.leave d :=
                ⟨hstands'.inHand.congr rfl rfl rfl, hstands'.operators, by rw [leave_depth]; omega⟩
              exact .ok (ends_factor hroom hends) hleave

/-! ## Whole texts -/

/-- **Reading a text in place comes out as reading its tokens does.**  It always comes to an end,
and a formula has as many operators as have been counted. -/
theorem ends_formula : ∃ s, Ends (formula mode text names) Scanner.initial
      ((Formula.parseWith mode names text).mapError Halt.refused) s ∧
    ∀ f, Formula.parseWith mode names text = .ok f → s.operators = f.operators ∧ s.depth = 0 := by
  have hbefore : Between text Scanner.initial [] text.toList := ⟨rfl, rfl⟩
  obtain ⟨s₁, hends₁, hinHand, -, hdepth, hoperators⟩ := ends_advance hnames hbefore
  have hstands : Stands text names maxNesting s₁ ⟨lexemes names text.toList, 0⟩ :=
    ⟨hinHand, hoperators, by rw [hdepth]; rfl⟩
  have hfollows : Follows text names maxNesting (chain mode text names .sum) s₁
      (Parser.formula mode text.utf8ByteSize ⟨lexemes names text.toList, 0⟩) :=
    tracks_expression hnames (Parser.sound_factor maxNesting) (tracks_factor hnames maxNesting) s₁ _
      hstands
  rw [Formula.parseWith]
  cases hresult : Parser.formula mode text.utf8ByteSize ⟨lexemes names text.toList, 0⟩ with
  | error e =>
      rw [hresult] at hfollows
      cases hfollows with
      | error hends => exact ⟨_, hends₁.bind hends.bind_error, by simp⟩
  | ok r =>
      rw [hresult] at hfollows
      cases hfollows with
      | @ok f d s₂ hends hstands₂ =>
          have hcounted : s₂.operators = f.operators := by
            have hsound := (Parser.sound_expression (Parser.sound_factor maxNesting) _ _ _
              hresult).counted
            simpa [← hstands₂.operators] using hsound
          have hdepth₂ : s₂.depth = 0 := by
            have hroom := hstands₂.depth
            omega
          have hinHand₂ := hstands₂.inHand
          obtain ⟨rest, k⟩ := d
          refine ⟨s₂, hends₁.bind (hends.bind (ends_of_run ?_)), ?_⟩
          · rw [run_bind_of_ok run_current]
            cases rest with
            | nil =>
                have htoken : s₂.token = .eof := hinHand₂.front_eq.symm
                rw [htoken]
                cases mode <;> rfl
            | cons l ls =>
                have hslice := hinHand₂.run_slice_start
                cases htoken : s₂.token with
                | eof => exact absurd htoken hinHand₂.token_ne_eof
                | _ =>
                    dsimp only
                    rw [run_get_bind, run_bind_of_ok hslice]
                    cases mode <;> rfl
          · intro g hg
            dsimp only at hg
            split at hg <;> cases hg
            exact ⟨hcounted, hdepth₂⟩

end

end Scan

end Markbook
