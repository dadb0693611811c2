import Mathlib.Order.Bounds.Basic
import Markbook.Proofs.Formula.Names
import Markbook.Proofs.Formula.Progress
import Markbook.Proofs.Formula.Recovery

/-!
# Small trees

Whoever goes through a tree recursively goes down its paths.  A tree that was read from a text is
small enough for it, and both bounds of the parser have a part in this.

The levels of nesting bound the signs and calls on a path, as each of them was read as an operand of
its own.  A long sum takes no levels at all: every operation in it is the left operand of the next.
That is what the operators are counted for, and a path has one node more than operators at most.

* `Formula.IsPath`, `Formula.nests` — the paths of a tree, and the nodes on them that take a level.
* `isGreatest_height` — the height of a tree is the length of its longest path.
* `shallow_of_trace` — what the levels of nesting bound.
* `size_of_parseWith` — **what was read is small**, and the counters are right at the end.
-/

namespace Markbook

namespace Formula

/-! ## Paths -/

/-- The paths from the root of a tree to a leaf, with their nodes from the root on. -/
inductive IsPath : Formula → List Formula → Prop
  | number {x} : IsPath (.number x) [.number x]
  | name {n} : IsPath (.name n) [.name n]
  | left {op f g p} : IsPath f p → IsPath (.binary op f g) (.binary op f g :: p)
  | right {op f g p} : IsPath g p → IsPath (.binary op f g) (.binary op f g :: p)
  | negate {f p} : IsPath f p → IsPath (.negate f) (.negate f :: p)
  | noArguments {function} : IsPath (.call function []) [.call function []]
  | argument {function fs f p} : f ∈ fs → IsPath f p →
      IsPath (.call function fs) (.call function fs :: p)

/-- Is the node a sign or a call? -/
def nests : Formula → Bool
  | .negate _ | .call _ _ => true
  | _ => false

lemma height_le_heightAll {f : Formula} : ∀ {fs : List Formula}, f ∈ fs → f.height ≤ heightAll fs
  | _ :: _, .head _ => Nat.le_max_left _ _
  | _ :: _, .tail _ h => Nat.le_trans (height_le_heightAll h) (Nat.le_max_right _ _)

lemma IsPath.length_le_height {f : Formula} {p : List Formula} (h : f.IsPath p) :
    p.length ≤ f.height := by
  induction h with
  | number | name | noArguments => simp [height]
  | left _ ih => exact Nat.succ_le_succ (Nat.le_trans ih (Nat.le_max_left _ _))
  | right _ ih => exact Nat.succ_le_succ (Nat.le_trans ih (Nat.le_max_right _ _))
  | negate _ ih => exact Nat.succ_le_succ ih
  | argument hmem _ ih => exact Nat.succ_le_succ (Nat.le_trans ih (height_le_heightAll hmem))

mutual

lemma exists_isPath : ∀ f : Formula, ∃ p, f.IsPath p ∧ p.length = f.height
  | .number x => ⟨_, .number, rfl⟩
  | .name n => ⟨_, .name, rfl⟩
  | .binary op f g => by
      obtain ⟨p, hp, hf⟩ := exists_isPath f
      obtain ⟨q, hq, hg⟩ := exists_isPath g
      rcases Nat.le_total f.height g.height with hle | hle
      · exact ⟨_, hq.right, by simp [height, hg, Nat.max_eq_right hle]⟩
      · exact ⟨_, hp.left, by simp [height, hf, Nat.max_eq_left hle]⟩
  | .negate f => by
      obtain ⟨p, hp, hf⟩ := exists_isPath f
      exact ⟨_, hp.negate, by simp [height, hf]⟩
  | .call function fs => by
      rcases eq_or_ne fs [] with rfl | hne
      · exact ⟨_, .noArguments, rfl⟩
      · obtain ⟨f, hmem, p, hp, hfs⟩ := exists_isPathAll fs hne
        exact ⟨_, .argument hmem hp, by simp [height, hfs]⟩

/-- One of several trees is as high as the highest. -/
lemma exists_isPathAll : ∀ fs : List Formula, fs ≠ [] →
    ∃ f ∈ fs, ∃ p, f.IsPath p ∧ p.length = heightAll fs
  | [], hne => absurd rfl hne
  | f :: fs, _ => by
      obtain ⟨p, hp, hf⟩ := exists_isPath f
      rcases Nat.le_total (heightAll fs) f.height with hle | hle
      · exact ⟨f, List.mem_cons_self, p, hp, by rw [hf, heightAll, Nat.max_eq_left hle]⟩
      · rcases eq_or_ne fs [] with rfl | hne
        · exact ⟨f, List.mem_cons_self, p, hp, by simp [hf, heightAll]⟩
        · obtain ⟨g, hmem, q, hq, hfs⟩ := exists_isPathAll fs hne
          exact ⟨g, List.mem_cons_of_mem f hmem, q, hq,
            by rw [hfs, heightAll, Nat.max_eq_right hle]⟩

end

/-- **The height of a tree is the length of its longest path.** -/
theorem isGreatest_height (f : Formula) :
    IsGreatest {k | ∃ p, f.IsPath p ∧ p.length = k} f.height := by
  refine ⟨exists_isPath f, ?_⟩
  rintro k ⟨p, hp, rfl⟩
  exact hp.length_le_height

mutual

/-- A path has one node more than operators at most. -/
lemma height_le_operators : ∀ f : Formula, f.height ≤ f.operators + 1
  | .number _ => Nat.le_refl _
  | .name _ => Nat.le_refl _
  | .binary _ f g => by
      have hf := height_le_operators f
      have hg := height_le_operators g
      simp only [height, operators]
      omega
  | .negate f => Nat.succ_le_succ (height_le_operators f)
  | .call _ fs => Nat.succ_le_succ (heightAll_le_operatorsAll fs)

lemma heightAll_le_operatorsAll : ∀ fs : List Formula, heightAll fs ≤ operatorsAll fs + 1
  | [] => Nat.zero_le _
  | f :: fs => by
      have hf := height_le_operators f
      have hfs := heightAll_le_operatorsAll fs
      simp only [heightAll, operatorsAll]
      omega

end

/-! ## Signs and calls on a path -/

/-- No path has more than `n` signs and calls on it. -/
def Shallow (n : Nat) (f : Formula) : Prop :=
  ∀ p, f.IsPath p → p.countP nests ≤ n

section

variable {n m : Nat} {f g : Formula} {fs : List Formula}

lemma Shallow.mono (h : Shallow n f) (hle : n ≤ m) : Shallow m f :=
  fun p hp => Nat.le_trans (h p hp) hle

lemma shallow_number {x : Float} : Shallow n (.number x) := by
  rintro p ⟨⟩
  exact Nat.zero_le n

lemma shallow_name {m : String} : Shallow n (.name m) := by
  rintro p ⟨⟩
  exact Nat.zero_le n

lemma Shallow.binary {op : BinaryOp} (hf : Shallow n f) (hg : Shallow n g) :
    Shallow n (.binary op f g) := by
  intro p hp
  cases hp with
  | left hp => simpa [nests] using hf _ hp
  | right hp => simpa [nests] using hg _ hp

lemma Shallow.negate (hf : Shallow n f) : Shallow (n + 1) (.negate f) := by
  intro p hp
  cases hp with
  | negate hp =>
      rw [List.countP_cons_of_pos rfl]
      exact Nat.succ_le_succ (hf _ hp)

lemma Shallow.call {function : String} (hfs : ∀ f ∈ fs, Shallow n f) :
    Shallow (n + 1) (.call function fs) := by
  intro p hp
  cases hp with
  | noArguments => simp [nests]
  | argument hmem hp =>
      rw [List.countP_cons_of_pos rfl]
      exact Nat.succ_le_succ (hfs _ hmem _ hp)

end

end Formula

open Formula

/-- The trees that a phase starts with. -/
def Phase.trees : Phase → List Formula
  | behind _ left => [left]
  | _ => []

@[simp] lemma trees_operand (level : Level) : level.operand.trees = [] := by
  cases level <;> rfl

/-- **The levels of nesting bound the signs and calls on a path.**  An operation takes no level, and
its left operand is there before its phase begins. -/
theorem shallow_of_trace {mode : Mode} {phase : Phase} {n : Nat} {ls ns : List Lexeme}
    {fs : List Formula} (h : Trace mode phase n ls fs ns) :
    (∀ f ∈ phase.trees, Shallow n f) → ∀ f ∈ fs, Shallow n f := by
  induction h with
  | chain _ _ ih ih' =>
      intro _
      have hf := ih (by simp)
      exact ih' hf
  | operator _ _ _ ih ih' =>
      intro hleft
      have hg := List.forall_mem_singleton.mp (ih (by simp))
      have hf := List.forall_mem_singleton.mp hleft
      exact ih' (List.forall_mem_singleton.mpr (hf.binary hg))
  | chainEnd _ => exact id
  | plus _ _ ih =>
      exact fun _ f hf => (ih (by simp [Phase.trees]) f hf).mono (Nat.le_succ _)
  | minus _ _ ih =>
      intro _
      have hf := List.forall_mem_singleton.mp (ih (by simp [Phase.trees]))
      exact List.forall_mem_singleton.mpr hf.negate
  | parentheses _ _ _ ih =>
      exact fun _ f hf => (ih (by simp [Phase.trees]) f hf).mono (Nat.le_succ _)
  | number _ | missing _ _ => exact fun _ => List.forall_mem_singleton.mpr shallow_number
  | name _ | word _ _ => exact fun _ => List.forall_mem_singleton.mpr shallow_name
  | call _ _ _ _ ih =>
      intro _
      have hfs := ih (by simp [Phase.trees])
      exact List.forall_mem_singleton.mpr (.call hfs)
  | noArguments _ | argumentsEnd _ => exact fun _ => by simp
  | arguments _ _ _ ih ih' | moreArguments _ _ _ ih ih' =>
      intro _
      have hfirst := List.forall_mem_singleton.mp (ih (by simp [Phase.trees]))
      exact List.forall_mem_cons.mpr ⟨hfirst, ih' (by simp [Phase.trees])⟩

namespace Formula

/-- **What was read is small.**  A tree has a bounded number of operators and so a bounded height,
and the signs and calls on each of its paths are bounded by the levels of nesting.  When it has been
read, all operators that were counted are in it, and all levels have been left. -/
theorem size_of_parseWith {mode : Mode} {names : List String} {text : String} {f : Formula}
    (h : parseWith mode (punctuatedNames names) text = .ok f) :
    f.operators ≤ maxOperators ∧ f.height ≤ maxOperators + 1 ∧
      (∀ p, f.IsPath p → p.countP nests ≤ maxNesting) ∧
      ∃ s, Scan.Ends (Scan.formula mode text (punctuatedNames names)) Scanner.initial (.ok f) s ∧
        s.operators = f.operators ∧ s.depth = 0 := by
  obtain ⟨c, hc⟩ := run_of_parseWith h
  obtain ⟨htrace, hcounted, hlimited⟩ :=
    Parser.sound_expression (Parser.sound_factor maxNesting) _ _ _ hc
  have hoperators : f.operators ≤ maxOperators := by
    have hlimit := hlimited (Nat.zero_le _)
    simp only [operators_chain, operatorsAll_singleton] at hcounted
    omega
  have hheight := height_le_operators f
  have hshallow : Shallow maxNesting f :=
    List.forall_mem_singleton.mp (shallow_of_trace htrace (by simp [Phase.trees]))
  obtain ⟨s, hends, hcounters⟩ :=
    Scan.ends_formula (Scan.toList_ne_nil_of_mem_punctuatedNames names)
  rw [h] at hends
  exact ⟨hoperators, by omega, hshallow, s, hends, hcounters f h⟩

/-- An operand and the parentheses at the end are missing here. -/
theorem size_of_unfinished : ∃ f,
    parseWith .lenient (punctuatedNames ["Test-1"]) "-max(1+2,-(Test-1*" = .ok f ∧
    f.print = "-max((1+2),-([Test-1]*0))" ∧
    f.operators ≤ maxOperators ∧ f.height ≤ maxOperators + 1 ∧
      (∀ p, f.IsPath p → p.countP nests ≤ maxNesting) ∧
      ∃ s, Scan.Ends (Scan.formula .lenient "-max(1+2,-(Test-1*" (punctuatedNames ["Test-1"]))
          Scanner.initial (.ok f) s ∧
        s.operators = f.operators ∧ s.depth = 0 := by
  obtain ⟨f, hread, hprint⟩ := exists_ok_of_any
    (x := parseWith .lenient (punctuatedNames ["Test-1"]) "-max(1+2,-(Test-1*")
    (p := (·.print = "-max((1+2),-([Test-1]*0))"))
    (by decide +kernel)
  exact ⟨f, hread, hprint, size_of_parseWith hread⟩

end Formula

end Markbook
