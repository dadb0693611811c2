import Markbook.Proofs.Bindings
import Markbook.Proofs.Formula.Evaluation
import Markbook.Proofs.Formula.Names
import Markbook.Proofs.Formula.Strict

/-!
# What counts as a mistake

A strict evaluation succeeds unless the author made a mistake: the text is no formula, a name in it
has no score or a function is unknown.  Nothing else keeps it from a value, and the value it has is
the lenient one.

A lenient evaluation makes nothing of such mistakes.  It can fail only because the parser has to
stop at one of its limits: each part of the lenient parser goes on whatever stands there, so no
error comes from anywhere else.

* `Parser.Tolerant` — parsers that fail at the limits only.
* `tolerant_factor` — **the lenient parser is one of them**.
* `evaluateFormula_strict_iff` — **when there is a strict value**, and what becomes of a lenient
  evaluation.
-/

namespace Markbook

/-! ## Parsers that fail at the limits only -/

namespace Parser

/-- Does the parser fail at one of its limits, if it fails? -/
def Tolerant {α : Type} (p : Parser α) : Prop :=
  ∀ c e, p c = .error e → e = .tooDeep ∨ e = .tooManyOperators

namespace Tolerant

variable {α β : Type} {p : Parser α} {q : α → Parser β}

lemma of_eq_ok (h : ∀ c, ∃ r, p c = .ok r) : Tolerant p := by
  intro c e he
  obtain ⟨r, hr⟩ := h c
  rw [hr] at he
  cases he

lemma pure (a : α) : Tolerant (pure a : Parser α) :=
  of_eq_ok fun _ => ⟨_, rfl⟩

lemma bind (hp : Tolerant p) (hq : ∀ a, Tolerant (q a)) : Tolerant (p >>= q) := by
  intro c e h
  cases hpc : p c with
  | error cause =>
      rw [bind_of_error hpc] at h
      obtain rfl : cause = e := Except.error.inj h
      exact hp c cause hpc
  | ok r =>
      rw [bind_of_ok hpc] at h
      exact hq r.1 r.2 e h

lemma current : Tolerant current :=
  of_eq_ok fun c => ⟨_, current_apply c⟩

lemma advance : Tolerant advance :=
  of_eq_ok fun c => ⟨_, advance_apply c⟩

lemma get : Tolerant (get : Parser Cursor) :=
  of_eq_ok fun c => ⟨_, get_apply c⟩

lemma countOperator : Tolerant countOperator := by
  intro c e h
  rw [countOperator_apply] at h
  split_ifs at h
  cases h
  exact Or.inr rfl

end Tolerant

variable {size : Nat}

lemma tolerant_chainFrom {op? : Token → Option BinaryOp} {operand : Parser Formula}
    (hoperand : Tolerant operand) : ∀ (fuel : Nat) (left : Formula),
      Tolerant (chainFrom op? operand fuel left)
  | 0, left => .pure left
  | fuel + 1, left => by
      refine Tolerant.bind .current fun t => ?_
      cases op? t with
      | none => exact .pure left
      | some op =>
          exact Tolerant.bind .countOperator fun _ => Tolerant.bind .advance fun _ =>
            hoperand.bind fun right => tolerant_chainFrom hoperand fuel _

lemma tolerant_chain {op? : Token → Option BinaryOp} {operand : Parser Formula}
    (hoperand : Tolerant operand) : Tolerant (chain op? operand) :=
  hoperand.bind fun left => Tolerant.bind .get fun _ => tolerant_chainFrom hoperand _ left

lemma tolerant_expression {factor : Parser Formula} (hfactor : Tolerant factor) :
    Tolerant (expression factor) :=
  tolerant_chain (tolerant_chain hfactor)

/-- A closing parenthesis may be missing. -/
lemma tolerant_close : Tolerant (close .lenient size) := by
  refine Tolerant.bind .current fun t => ?_
  cases t with
  | rightParen => exact .advance
  | _ => exact .pure ()

lemma tolerant_moreArguments {argument : Parser Formula} (hargument : Tolerant argument) :
    ∀ fuel : Nat, Tolerant (moreArguments argument fuel)
  | 0 => .pure []
  | fuel + 1 => by
      refine Tolerant.bind .current fun t => ?_
      cases t with
      | comma =>
          exact Tolerant.bind .advance fun _ => hargument.bind fun first =>
            (tolerant_moreArguments hargument fuel).bind fun rest => .pure _
      | _ => exact .pure []

lemma tolerant_arguments {argument : Parser Formula} (hargument : Tolerant argument) :
    Tolerant (arguments argument) := by
  refine Tolerant.bind .current fun t => ?_
  cases t with
  | rightParen => exact .pure []
  | _ =>
      exact hargument.bind fun first => Tolerant.bind .get fun c =>
        (tolerant_moreArguments hargument _).bind fun rest => .pure _

/-- An operand may be missing. -/
lemma tolerant_operand {deeper : Parser Formula} (hdeeper : Tolerant deeper) :
    Tolerant (operand .lenient size deeper) := by
  refine Tolerant.bind .current fun t => ?_
  cases t with
  | plus => exact Tolerant.bind .advance fun _ => hdeeper
  | minus =>
      exact Tolerant.bind .countOperator fun _ => Tolerant.bind .advance fun _ =>
        hdeeper.bind fun inner => .pure _
  | leftParen =>
      exact Tolerant.bind .advance fun _ => (tolerant_expression hdeeper).bind fun inner =>
        tolerant_close.bind fun _ => .pure _
  | number x => exact Tolerant.bind .advance fun _ => .pure _
  | name n => exact Tolerant.bind .advance fun _ => .pure _
  | word text =>
      refine Tolerant.bind .advance fun _ => Tolerant.bind .current fun t => ?_
      cases t with
      | leftParen =>
          exact Tolerant.bind .countOperator fun _ => Tolerant.bind .advance fun _ =>
            (tolerant_arguments (tolerant_expression hdeeper)).bind fun args =>
              tolerant_close.bind fun _ => .pure _
      | _ => exact .pure _
  | _ => exact .pure _

/-- **The lenient parser fails at the limits only**, however many levels of nesting it has left. -/
theorem tolerant_factor : ∀ room : Nat, Tolerant (factor .lenient size room)
  | 0 => fun _ _ h => by
      cases h
      exact Or.inl rfl
  | room + 1 => tolerant_operand (tolerant_factor room)

end Parser

/-! ## Readings -/

namespace Formula

variable {mode : Mode} {names : List String} {text : String} {b : Bindings} {x : Float}

/-- A lenient reading fails at the limits only. -/
lemma parseWith_lenient_error {e : FormulaError} (h : parseWith .lenient names text = .error e) :
    e = .parse .tooDeep ∨ e = .parse .tooManyOperators := by
  rw [parseWith] at h
  cases hrun : Parser.formula .lenient text.utf8ByteSize ⟨lexemes names text.toList, 0⟩ with
  | error cause =>
      obtain rfl : .parse cause = e := by simpa only [hrun, Except.error.injEq] using h
      exact (Parser.tolerant_expression (Parser.tolerant_factor maxNesting) _ _ hrun).imp
        (congrArg _) (congrArg _)
  | ok r =>
      simp only [hrun] at h
      cases h

/-- A strict value of a tree, in terms of its lenient one. -/
lemma evaluate_strict_iff {f : Formula} : f.evaluate .strict b = .ok x ↔
    (∀ n ∈ f.references, b.contains n = true) ∧ (∀ g ∈ f.functions, isRegistered g = true) ∧
      f.evaluate .lenient b = .ok x := by
  have hexists := exists_evaluate_strict (b := b) f
  simp only [← mem_references, ← Bindings.contains_eq_isSome] at hexists
  rw [← and_assoc, ← hexists]
  constructor
  · exact fun h => ⟨⟨x, h⟩, evaluate_lenient_of_strict f h⟩
  · rintro ⟨⟨y, hy⟩, hx⟩
    rw [← hx, evaluate_lenient_of_strict f hy, hy]

end Formula

/-! ## Formulas -/

section

variable {b : Bindings} {text : String} {x : Float}

lemma evaluateFormula_lenient_of_strict (h : evaluateFormula .strict b text = .ok x) :
    evaluateFormula .lenient b text = .ok x := by
  obtain ⟨f, hread, hvalue⟩ := Except.bind_eq_ok.mp h
  exact Except.bind_eq_ok.mpr
    ⟨f, Formula.read_lenient_of_strict hread, Formula.evaluate_lenient_of_strict f hvalue⟩

/-- A lenient evaluation has a value unless the parser stops at a limit. -/
lemma evaluateFormula_lenient_cases (b : Bindings) (text : String) :
    (∃ x, evaluateFormula .lenient b text = .ok x) ∨
      evaluateFormula .lenient b text = .error (.parse .tooDeep) ∨
      evaluateFormula .lenient b text = .error (.parse .tooManyOperators) := by
  rw [evaluateFormula]
  cases hread : Formula.read .lenient b.names text with
  | error e =>
      right
      rcases Formula.parseWith_lenient_error hread with rfl | rfl
      · exact Or.inl rfl
      · exact Or.inr rfl
  | ok f => exact Or.inl (Formula.exists_evaluate_lenient f)

end

/-- **A strict evaluation reports the mistakes and nothing else.**  It has a value if and only if
the formula is read strictly with the bound names, every name in the tree is bound and every
function is registered; and the value is the lenient one, also of the formula with mistakes counting
as zero.  A lenient evaluation has a value unless the parser stops at one of its limits, and then
there is no strict value either. -/
theorem evaluateFormula_strict_iff (b : Bindings) (text : String) :
    (∀ x, evaluateFormula .strict b text = .ok x ↔
      ∃ f, Formula.read .strict b.names text = .ok f ∧
        (∀ n ∈ f.references, b.contains n = true) ∧
        (∀ g ∈ f.functions, Formula.isRegistered g = true) ∧ f.evaluate .lenient b = .ok x) ∧
    (∀ x, evaluateFormula .strict b text = .ok x →
      evaluateFormula .lenient b text = .ok x ∧ orZero (evaluateFormula .lenient b text) = x) ∧
    ((∃ x, evaluateFormula .lenient b text = .ok x) ∨
      (evaluateFormula .lenient b text = .error (.parse .tooDeep) ∨
        evaluateFormula .lenient b text = .error (.parse .tooManyOperators)) ∧
      ∃ e, evaluateFormula .strict b text = .error e) := by
  refine ⟨fun x => ?_, fun x h => ?_, ?_⟩
  · rw [evaluateFormula, Except.bind_eq_ok]
    exact exists_congr fun f => and_congr_right fun _ => Formula.evaluate_strict_iff
  · have hlenient := evaluateFormula_lenient_of_strict h
    exact ⟨hlenient, by rw [hlenient, orZero]⟩
  · refine (evaluateFormula_lenient_cases b text).imp id fun hlimit => ⟨hlimit, ?_⟩
    cases hstrict : evaluateFormula .strict b text with
    | error e => exact ⟨e, rfl⟩
    | ok x =>
        rw [evaluateFormula_lenient_of_strict hstrict] at hlimit
        rcases hlimit with h | h <;> cases h

/-- A formula without mistakes, in which one name stands bare and the other in brackets. -/
theorem evaluateFormula_strict_of_bound :
    let b := Bindings.ofList [("Lab-1", 3), ("Quiz 2", 8)]
    let text := "MAX(Lab-1, [Quiz2]) / 2"
    evaluateFormula .strict b text = .ok 4 ∧
      (∃ f, Formula.read .strict b.names text = .ok f ∧
        (∀ n ∈ f.references, b.contains n = true) ∧
        (∀ g ∈ f.functions, Formula.isRegistered g = true) ∧ f.evaluate .lenient b = .ok 4) ∧
      evaluateFormula .lenient b text = .ok 4 ∧ orZero (evaluateFormula .lenient b text) = 4 := by
  intro b text
  have hstrict : evaluateFormula .strict b text = .ok 4 := by
    rw [eq_ok_of_isOk (r := evaluateFormula .strict b text) (by decide +kernel)]
    exact congrArg _ (by decide +kernel)
  obtain ⟨hvalue, hlenient, -⟩ := evaluateFormula_strict_iff b text
  exact ⟨hstrict, (hvalue 4).mp hstrict, hlenient 4 hstrict⟩

end Markbook
