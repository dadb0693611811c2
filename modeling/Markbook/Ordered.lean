/-!
# Ordered lists without repetition

Several lists of the library are kept in order and without repetition: the names a scanner tries,
the precedents of a formula, the registered functions.  They are built by inserting one element at
a time, so that being ordered is a fact about a single function.

* `insertOrdered` — inserts an element unless it is there already.
* `orderedSet` — the elements of a list, in order, each once.
-/

namespace Markbook

variable {α : Type} [DecidableEq α]

/-- Inserts an element before the first that comes after it.  An element that is there already is
not inserted again. -/
def insertOrdered (before : α → α → Bool) (x : α) : List α → List α
  | [] => [x]
  | y :: rest =>
    if x = y then y :: rest
    else if before x y then x :: y :: rest
    else y :: insertOrdered before x rest

/-- The elements of a list in order, each once. -/
def orderedSet (before : α → α → Bool) (xs : List α) : List α :=
  xs.foldr (insertOrdered before) []

/-- Texts are ordered by their code points. -/
def textBefore (a b : String) : Bool :=
  a < b

theorem textBefore_trans {a b c : String} (hab : textBefore a b = true)
    (hbc : textBefore b c = true) : textBefore a c = true :=
  decide_eq_true (String.lt_trans (of_decide_eq_true hab) (of_decide_eq_true hbc))

theorem textBefore_of_ne {a b : String} (hne : a ≠ b) (hab : ¬ textBefore a b = true) :
    textBefore b a = true := by
  have hle : b ≤ a := String.not_lt.mp fun hlt => hab (decide_eq_true hlt)
  exact decide_eq_true (Decidable.byContradiction fun hlt =>
    hne (String.le_antisymm (String.not_lt.mp hlt) hle))

end Markbook
