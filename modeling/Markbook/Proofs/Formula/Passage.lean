import Mathlib.Logic.Relation
import Markbook.Formula.Descent
import Markbook.Proofs.Formula.Scanner

/-!
# The states that a parser passes through

A parser does four things to its scanner: it goes on to the next token, counts an operator, enters
an operand and leaves one.  `Reaches` says where that can lead to, and a parser gets nowhere else.
This holds of every state on its way and not only of the last.  The parser is put together from
single steps, and each of them begins and ends in a state that is reached.  Where a parser is not
done in its rounds, it holds as far as the parser has come.

One of the steps goes in rounds itself.  Where the scanner finds the next token in some of them, it
finds the same in more, and there is a next token wherever a parser gets to.

* `Step`, `Reaches` — what a parser does to its scanner, one thing after another.
* `Placed` — where the token in hand stands, `Reaches.placed` in every state that is reached.
* `exists_advance` — the next token lies ahead.
* `Through` — a program that passes through states of a kind only.
* `through_formula` — **a parser only passes through states that are reached**.
-/

namespace Markbook

open String (utf8Len)

namespace Scan

/-! ## The states of a parser -/

/-- One thing that a parser does to its scanner. -/
inductive Step (text : String) (names : List String) : Scanner → Scanner → Prop
  | advance {s s'} : Ends (advance text names) s (.ok ()) s' → Step text names s s'
  | count {s} : Step text names s s.count
  | enter {s} : Step text names s s.enter
  | leave {s} : Step text names s s.leave

/-- Where a parser can get to, doing one thing after another. -/
def Reaches (text : String) (names : List String) : Scanner → Scanner → Prop :=
  Relation.ReflTransGen (Step text names)

/-- The token in hand is written as `w`, between two parts of the text. -/
def Placed (text : String) (s : Scanner) : Prop :=
  ∃ u w v, s.start = utf8Len u ∧ Between text s (u ++ w) v

section

variable {text : String} {names : List String} {s s' : Scanner} {ls : List Lexeme}

lemma placed_initial (text : String) : Placed text Scanner.initial :=
  ⟨[], [], text.toList, rfl, rfl, rfl⟩

lemma InHand.placed (h : InHand text names s ls) : Placed text s := by
  cases h with
  | eof _ hempty hend =>
      exact ⟨text.toList, [], [], hempty.trans hend.position, by rwa [List.append_nil]⟩
  | token _ _ hstart hbetween => exact ⟨_, _, _, hstart, hbetween⟩

lemma Placed.congr (h : Placed text s) (hstart : s'.start = s.start)
    (hposition : s'.position = s.position) : Placed text s' := by
  obtain ⟨u, w, v, hu, hbetween⟩ := h
  exact ⟨u, w, v, hstart.trans hu, hbetween.split, hposition.trans hbetween.position⟩

/-- The offsets of the token in hand lie between characters, in the text and in order. -/
lemma Placed.bounds (h : Placed text s) : String.Pos.Raw.IsValid text ⟨s.start⟩ ∧
    String.Pos.Raw.IsValid text ⟨s.position⟩ ∧ s.start ≤ s.position ∧
    s.position ≤ text.utf8ByteSize := by
  obtain ⟨u, w, v, hstart, hbetween⟩ := h
  have hsplit := hbetween.split
  rw [hstart, hbetween.position, ← utf8Len_toList, hsplit]
  refine ⟨isValid_utf8Len (v := w ++ v) ?_, isValid_utf8Len hsplit, ?_, ?_⟩
  · rw [hsplit, List.append_assoc]
  · simp
  · simp

/-- **The next token lies ahead**, unless the text is at its end. -/
lemma exists_advance (hnames : ∀ n ∈ names, n.toList ≠ []) (h : Placed text s) :
    ∃ s', Ends (advance text names) s (.ok ()) s' ∧ Placed text s' ∧
      (s'.token = .eof ∧ s'.position = text.utf8ByteSize ∨
        s'.token ≠ .eof ∧ s.position < s'.position) := by
  obtain ⟨u, w, v, _, hbetween⟩ := h
  obtain ⟨s', hends, hinHand, hahead, _⟩ := ends_advance hnames hbetween
  refine ⟨s', hends, hinHand.placed, ?_⟩
  generalize lexemesAt names (u ++ w) v = ls at hinHand
  cases hinHand with
  | eof htoken _ hend =>
      exact .inl ⟨htoken, by rw [hend.position, utf8Len_toList]⟩
  | @token u' w' v' hne hw hstart hbetween' =>
      refine .inr ⟨hne, ?_⟩
      have hpos : 0 < utf8Len w' :=
        Nat.pos_of_ne_zero fun hzero => hw (String.utf8Len_eq_zero.mp hzero)
      rw [hbetween'.position, String.utf8Len_append]
      omega

/-- One thing that a parser does leaves the token in hand between characters. -/
lemma Step.placed (hnames : ∀ n ∈ names, n.toList ≠ []) (hstep : Step text names s s')
    (h : Placed text s) : Placed text s' := by
  cases hstep with
  | advance hends =>
      obtain ⟨s₁, hends₁, hplaced, _⟩ := exists_advance hnames h
      obtain ⟨-, rfl⟩ := hends.unique hends₁
      exact hplaced
  | count => exact h.congr rfl rfl
  | enter => exact h.congr rfl rfl
  | leave => exact h.congr rfl rfl

/-- So it is wherever a parser gets to. -/
lemma Reaches.placed (hnames : ∀ n ∈ names, n.toList ≠ []) (hreach : Reaches text names s s')
    (h : Placed text s) : Placed text s' := by
  induction hreach with
  | refl => exact h
  | tail _ hstep ih => exact hstep.placed hnames ih

end

/-! ## More rounds -/

/-- Whatever `p` comes to, `q` comes to as well. -/
def Below {α : Type} (p q : Scan α) : Prop :=
  ∀ s x, p.run s = some x → q.run s = some x

section

variable {α β : Type} {p p' : Scan α} {k k' : α → Scan β} {text : String} {names : List String}

lemma Below.refl (p : Scan α) : Below p p :=
  fun _ _ => id

lemma below_unfinished (p : Scan α) : Below unfinished p := by
  intro s x h
  cases h

lemma Below.bind (hp : Below p p') (hk : ∀ a, Below (k a) (k' a)) :
    Below (p >>= k) (p' >>= k') := by
  intro s x h
  cases hrun : p.run s with
  | none =>
      rw [ExceptT.run_bind] at h
      change (p.run s >>= _) = _ at h
      rw [hrun] at h
      cases h
  | some r =>
      have hrun' := hp s r hrun
      obtain ⟨a | a, s'⟩ := r
      · rw [run_bind_of_error hrun] at h
        rwa [run_bind_of_error hrun']
      · rw [run_bind_of_ok hrun] at h
        rw [run_bind_of_ok hrun']
        exact hk a s' x h

lemma below_skipWhile (c : Char → Bool) :
    ∀ n, Below (skipWhile text c n) (skipWhile text c (n + 1))
  | 0 => below_unfinished _
  | n + 1 => by
      rw [skipWhile, skipWhile]
      refine (Below.refl _).bind fun next => ?_
      cases next with
      | none => exact .refl _
      | some d =>
          dsimp only
          split_ifs
          · exact (Below.refl _).bind fun _ => below_skipWhile c n
          · exact .refl _

lemma below_word (n : Nat) : Below (word text n) (word text (n + 1)) :=
  (Below.refl _).bind fun _ => (below_skipWhile _ n).bind fun _ => .refl _

lemma below_number (n : Nat) : Below (number text n) (number text (n + 1)) := by
  refine (Below.refl _).bind fun _ => (below_skipWhile _ n).bind fun _ => (Below.refl _).bind
    fun _ => (Below.refl _).bind fun run => (Below.refl _).bind fun next => ?_
  split_ifs
  · exact (Below.refl _).bind fun _ => below_word n
  · exact .refl _

lemma below_plain (c : Char) (n : Nat) : Below (plain text c n) (plain text c (n + 1)) := by
  rw [plain, plain]
  cases Token.ofSign? c with
  | some t => exact .refl _
  | none =>
      dsimp only
      split_ifs
      · exact .refl _
      · exact below_number n
      · exact below_word n
      · exact .refl _

lemma below_token (n : Nat) : Below (token text names n) (token text names (n + 1)) := by
  refine (Below.refl _).bind fun next => ?_
  cases next with
  | none => exact .refl _
  | some c =>
      dsimp only
      split_ifs
      all_goals
        refine (Below.refl _).bind fun found => ?_
        cases found with
        | some t => exact .refl _
        | none => exact below_plain c n

lemma below_advance (n : Nat) : Below (advance text names n) (advance text names (n + 1)) :=
  (below_skipWhile _ n).bind fun _ => (Below.refl _).bind fun _ =>
    (below_token n).bind fun _ => .refl _

/-- Where the scanner is done in some number of rounds, that is where it comes to an end. -/
lemma ends_of_run_advance {n : Nat} {s s' : Scanner} {r : Except Halt Unit}
    (h : (advance text names n).run s = some (r, s')) : Ends (advance text names) s r s' := by
  refine ⟨n, fun m hm => ?_⟩
  induction m, hm using Nat.le_induction with
  | base => exact h
  | succ m _ ih => exact below_advance m s _ ih

end

/-! ## Passing through states -/

/-- A program that passes through `good` states only, begun in the given one.  It is put together
from programs that do one thing each, and every one of them begins and ends in such a state. -/
inductive Through (text : String) (names : List String) (good : Scanner → Prop) :
    {α : Type} → StateT Scanner Option α → Scanner → Prop
  | answer {α : Type} {a : α} {s} : good s → Through text names good (pure a) s
  | unfinished {α : Type} {s} : good s → Through text names good (unfinished : Scan α).run s
  | get {s} : good s → Through text names good get s
  | modify {change : Scanner → Scanner} {s} : good s → good (change s) →
      Through text names good (modify change) s
  | advance {n s} : good s → (∀ r s', (advance text names n).run s = some (r, s') → good s') →
      Through text names good (advance text names n).run s
  | bind {α β : Type} {p : StateT Scanner Option α} {k : α → StateT Scanner Option β} {s} :
      Through text names good p s →
      (∀ a s', p.run s = some (a, s') → Through text names good (k a) s') →
      Through text names good (p >>= k) s

section

variable {text : String} {names : List String} {good : Scanner → Prop} {α β : Type}
  {s s' : Scanner}

/-- The last state is one of them. -/
lemma Through.last {p : StateT Scanner Option α} (h : Through text names good p s) :
    ∀ {a s'}, p.run s = some (a, s') → good s' := by
  induction h with
  | answer hs =>
      intro a s' hrun
      cases hrun
      exact hs
  | unfinished _ =>
      intro a s' hrun
      cases hrun
  | get hs =>
      intro a s' hrun
      cases hrun
      exact hs
  | modify _ hs' =>
      intro a s' hrun
      cases hrun
      exact hs'
  | advance _ hs' => exact fun hrun => hs' _ _ hrun
  | @bind α β p k s _ _ _ ih =>
      intro b s' hrun
      rw [StateT.run_bind] at hrun
      obtain ⟨⟨a, s₁⟩, hp, hk⟩ := Option.bind_eq_some_iff.mp hrun
      exact ih a s₁ hp hk

lemma Through.lift {p : StateT Scanner Option α} (h : Through text names good p s) :
    Through text names good (ExceptT.lift p : Scan α).run s := by
  rw [ExceptT.run_lift, ← bind_pure_comp]
  exact .bind h fun _ _ hrun => .answer (h.last hrun)

/-- A scan passes through such states until it stops, or until it has answered. -/
lemma Through.next {p : Scan α} {k : α → Scan β} (hp : Through text names good p.run s)
    (hk : ∀ a s', p.run s = some (.ok a, s') → Through text names good (k a).run s') :
    Through text names good (p >>= k).run s := by
  refine .bind hp fun r s' hrun => ?_
  cases r with
  | ok a => exact hk a s' hrun
  | error e => exact .answer (hp.last hrun)

end

/-- A scan that passes through states that are reached, from every one of them on. -/
def Passes (text : String) (names : List String) (first : Scanner) {α : Type} (p : Scan α) : Prop :=
  ∀ s, Reaches text names first s → Through text names (Reaches text names first) p.run s

section

variable {text : String} {names : List String} {first : Scanner} {α β : Type} {mode : Mode}

lemma Passes.bind {p : Scan α} {k : α → Scan β} (hp : Passes text names first p)
    (hk : ∀ a, Passes text names first (k a)) : Passes text names first (p >>= k) :=
  fun s hs => (hp s hs).next fun a s' hrun => hk a s' ((hp s hs).last hrun)

lemma passes_pure (a : α) : Passes text names first (pure a) :=
  fun _ hs => .answer hs

lemma passes_throw (e : Halt) : Passes text names first (throw e : Scan α) :=
  fun _ hs => .answer hs

lemma passes_unfinished : Passes text names first (unfinished : Scan α) :=
  fun _ hs => .unfinished hs

lemma passes_get : Passes text names first (get : Scan Scanner) :=
  fun _ hs => (Through.get hs).lift

lemma passes_modify {change : Scanner → Scanner} (h : ∀ s, Step text names s (change s)) :
    Passes text names first (modify change : Scan Unit) :=
  fun s hs => (Through.modify hs (hs.tail (h s))).lift

lemma passes_current : Passes text names first current :=
  passes_get.bind fun _ => passes_pure _

lemma passes_refuse (cause : ParseError) : Passes text names first (refuse cause : Scan α) :=
  passes_throw _

lemma passes_countOperator : Passes text names first countOperator := by
  refine (passes_modify fun _ => .count).bind fun _ => passes_get.bind fun s => ?_
  split_ifs
  · exact passes_refuse _
  · exact passes_pure _

lemma passes_slice (i j : Nat) : Passes text names first (slice text i j) := by
  rw [slice]
  split_ifs
  · exact passes_pure _
  · exact passes_throw _

/-- Wherever a parser gets to, the scanner finds the next token or is not done. -/
lemma passes_advance (hnames : ∀ n ∈ names, n.toList ≠ []) (hfirst : Placed text first) (n : Nat) :
    Passes text names first (advance text names n) := by
  intro s hs
  obtain ⟨s₁, hends, _⟩ := exists_advance hnames (hs.placed hnames hfirst)
  refine .advance hs fun r s' hrun => ?_
  obtain ⟨rfl, rfl⟩ := hends.unique (ends_of_run_advance hrun)
  exact hs.tail (.advance hends)

/-! ### The parser

The recursion is the one of the parser, on the rounds that are left.
-/

lemma passes_close {n : Nat} (h : Passes text names first (advance text names n)) :
    Passes text names first (close mode text names n) := by
  refine passes_current.bind fun found => ?_
  cases found with
  | rightParen => exact h
  | _ =>
      cases mode with
      | lenient => exact passes_pure _
      | strict => exact passes_get.bind fun _ => passes_refuse _

mutual

lemma passes_chain (h : ∀ n, Passes text names first (advance text names n)) (level : Level) :
    ∀ n, Passes text names first (chain mode text names level n)
  | 0 => passes_unfinished
  | n + 1 => by
      rw [chain]
      exact (passes_operand h level n).bind fun left => passes_behind h level left n

lemma passes_behind (h : ∀ n, Passes text names first (advance text names n)) (level : Level)
    (left : Formula) : ∀ n, Passes text names first (behind mode text names level left n)
  | 0 => passes_unfinished
  | n + 1 => by
      rw [behind]
      refine passes_current.bind fun t => ?_
      cases level.op? t with
      | none => exact passes_pure _
      | some op =>
          exact passes_countOperator.bind fun _ => (h n).bind fun _ =>
            (passes_operand h level n).bind fun right => passes_behind h level _ n

lemma passes_operand (h : ∀ n, Passes text names first (advance text names n)) (level : Level) :
    ∀ n, Passes text names first (operand mode text names level n)
  | 0 => passes_unfinished
  | n + 1 => by
      cases level with
      | sum =>
          rw [operand]
          exact passes_chain h .product n
      | product =>
          rw [operand]
          exact passes_factor h n

/-- The level that is entered is left again whatever becomes of the operand. -/
lemma passes_factor (h : ∀ n, Passes text names first (advance text names n)) :
    ∀ n, Passes text names first (factor mode text names n)
  | 0 => passes_unfinished
  | n + 1 => by
      intro s hs
      rw [factor]
      refine .bind (.modify hs (hs.tail .enter)) fun _ s₁ h₁ => ?_
      cases h₁
      refine .bind (.get (hs.tail .enter)) fun s₂ _ h₂ => ?_
      cases h₂
      split_ifs
      · exact .answer (hs.tail .enter)
      · have hprimary := passes_primary h n s.enter (hs.tail .enter)
        refine .bind hprimary fun r s₃ h₃ => ?_
        have hs₃ := hprimary.last h₃
        refine .bind (.modify hs₃ (hs₃.tail .leave)) fun _ s₄ h₄ => ?_
        cases h₄
        exact .answer (hs₃.tail .leave)

lemma passes_primary (h : ∀ n, Passes text names first (advance text names n)) :
    ∀ n, Passes text names first (primary mode text names n)
  | 0 => passes_unfinished
  | n + 1 => by
      rw [primary]
      refine passes_current.bind fun t => ?_
      cases t with
      | plus => exact (h n).bind fun _ => passes_factor h n
      | minus =>
          exact passes_countOperator.bind fun _ => (h n).bind fun _ =>
            (passes_factor h n).bind fun _ => passes_pure _
      | leftParen =>
          exact (h n).bind fun _ => (passes_chain h .sum n).bind fun _ =>
            (passes_close (h n)).bind fun _ => passes_pure _
      | number x => exact (h n).bind fun _ => passes_pure _
      | name m => exact (h n).bind fun _ => passes_pure _
      | word function =>
          refine (h n).bind fun _ => passes_current.bind fun next => ?_
          cases next with
          | leftParen => exact passes_call h function n
          | _ => exact passes_pure _
      | _ =>
          cases mode with
          | lenient => exact passes_pure _
          | strict => exact passes_get.bind fun _ => passes_refuse _

lemma passes_call (h : ∀ n, Passes text names first (advance text names n)) (function : String) :
    ∀ n, Passes text names first (call mode text names function n)
  | 0 => passes_unfinished
  | n + 1 => by
      rw [call]
      exact passes_countOperator.bind fun _ => (h n).bind fun _ =>
        (passes_arguments h n).bind fun _ => (passes_close (h n)).bind fun _ => passes_pure _

lemma passes_arguments (h : ∀ n, Passes text names first (advance text names n)) :
    ∀ n, Passes text names first (arguments mode text names n)
  | 0 => passes_unfinished
  | n + 1 => by
      rw [arguments]
      refine passes_current.bind fun t => ?_
      have hsome : Passes text names first
          (do return (← chain mode text names .sum n) :: (← moreArguments mode text names n)) :=
        (passes_chain h .sum n).bind fun f =>
          (passes_moreArguments h n).bind fun fs => passes_pure (f :: fs)
      cases t with
      | rightParen => exact passes_pure _
      | _ => exact hsome

lemma passes_moreArguments (h : ∀ n, Passes text names first (advance text names n)) :
    ∀ n, Passes text names first (moreArguments mode text names n)
  | 0 => passes_unfinished
  | n + 1 => by
      rw [moreArguments]
      refine passes_current.bind fun t => ?_
      cases t with
      | comma =>
          exact (h n).bind fun _ => (passes_chain h .sum n).bind fun f =>
            (passes_moreArguments h n).bind fun fs => passes_pure (f :: fs)
      | _ => exact passes_pure _

end

lemma passes_formula (h : ∀ n, Passes text names first (advance text names n)) (n : Nat) :
    Passes text names first (formula mode text names n) := by
  refine (h n).bind fun _ => (passes_chain h .sum n).bind fun f => passes_current.bind fun t => ?_
  cases t with
  | eof => exact passes_pure _
  | _ =>
      refine passes_get.bind fun s => (passes_slice _ _).bind fun left => ?_
      cases mode with
      | lenient => exact passes_pure _
      | strict => exact passes_throw _

end

/-- **A parser only passes through states that are reached**, from before its first token on.  How
many rounds it may go makes no difference, nor does it whether it is done in them. -/
theorem through_formula (mode : Mode) {names : List String} (hnames : ∀ n ∈ names, n.toList ≠ [])
    (text : String) (n : Nat) :
    Through text names (Reaches text names Scanner.initial) (formula mode text names n).run
      Scanner.initial :=
  passes_formula (passes_advance hnames (placed_initial text)) n _ .refl

end Scan

end Markbook
