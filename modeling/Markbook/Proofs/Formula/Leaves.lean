import Markbook.Proofs.Formula.Grammar

/-!
# The leaves of a tree and its tokens

What a derived tree is made of is to be found among its tokens: its numbers are the number tokens in
order, and a function that it calls is a word in lower case.

* `literalsAll_of_derives` — the numbers.
* `calls_of_derives` — the functions.
-/

namespace Markbook

/-- The number that a token holds. -/
def Token.number? : Token → Option Float
  | .number x => some x
  | _ => none

lemma number?_of_sign {level : Level} {t : Token} {op : BinaryOp} (h : level.Sign t op) :
    t.number? = none ∧ t ≠ .leftParen ∧ t ≠ .rightParen := by
  cases h <;> simp [Token.number?]

section Derived

variable {part : Part} {n : Nat} {ts : List Token} {fs : List Formula}

/-- The numbers in the trees are those among the tokens. -/
lemma literalsAll_of_derives (h : Derives part n ts fs) :
    Formula.literalsAll fs = ts.filterMap Token.number? := by
  induction h with
  | ofTerm _ ih => exact ih
  | ofFactor _ ih => exact ih
  | sum _ hop _ ih ih' | product _ hop _ ih ih' =>
      simp_all [Formula.literalsAll, Formula.literals, number?_of_sign hop]
  | argument _ _ ih ih' =>
      simp_all [Formula.literalsAll, List.filterMap_cons, Token.number?]
  | _ => simp_all [Formula.literalsAll, Formula.literals, List.filterMap_cons, Token.number?]

end Derived

/-- A word among the tokens names the function. -/
def Calls (ts : List Token) (g : String) : Prop :=
  ∃ w, .word w ∈ ts ∧ g = lowerCase w

lemma Calls.mono {ts us : List Token} {g : String} (h : Calls ts g) (hsub : ts ⊆ us) :
    Calls us g := by
  obtain ⟨w, hw, hg⟩ := h
  exact ⟨w, hsub hw, hg⟩

section Derived

variable {part : Part} {n : Nat} {ts : List Token} {fs : List Formula}

open Formula in
/-- **The functions in the trees are words among the tokens**, in lower case. -/
lemma calls_of_derives (h : Derives part n ts fs) : ∀ g ∈ functionsAll fs, Calls ts g := by
  have hchain : ∀ {ts us : List Token} {t : Token} {op : BinaryOp} {f g : Formula},
      (∀ e ∈ functionsAll [f], Calls ts e) → (∀ e ∈ functionsAll [g], Calls us e) →
        ∀ e ∈ functionsAll [binary op f g], Calls (ts ++ t :: us) e := by
    intro ts us t op f g hf hg
    simp only [functionsAll, functions, List.append_nil, List.forall_mem_append] at hf hg ⊢
    exact ⟨fun e he => (hf e he).mono (by simp), fun e he => (hg e he).mono (by simp)⟩
  induction h with
  | ofTerm _ ih => exact ih
  | sum _ _ _ ih ih' => exact hchain ih ih'
  | ofFactor _ ih => exact ih
  | product _ _ _ ih ih' => exact hchain ih ih'
  | plus _ ih => exact fun g hg => (ih g hg).mono (by simp)
  | minus _ ih => exact fun g hg => (ih g hg).mono (by simp)
  | parentheses _ ih => exact fun g hg => (ih g hg).mono (by simp)
  | number => simp [functionsAll, functions]
  | name => simp [functionsAll, functions]
  | word => simp [functionsAll, functions]
  | @call n text ts fs _ ih =>
      simp only [functionsAll, functions, List.append_nil, List.forall_mem_cons]
      exact ⟨⟨text, by simp, rfl⟩, fun g hg => (ih g hg).mono fun t ht => by simp [ht]⟩
  | noArgument => simp [functionsAll]
  | lastArgument _ ih => exact ih
  | argument _ _ ih ih' =>
      rw [functionsAll, functionsAll, List.append_nil] at ih
      rw [functionsAll, List.forall_mem_append]
      exact ⟨fun e he => (ih e he).mono (by simp), fun e he => (ih' e he).mono (by simp)⟩

end Derived

end Markbook
