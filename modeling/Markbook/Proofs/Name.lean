import Mathlib.Tactic.Common
import Markbook.Name

/-!
# Plain names

A name is plain when it has no white space.  Normalizing gives the plain form of a name and leaves a
plain name alone, so two spellings name one thing exactly when their plain forms are equal.

* `normalize_normalize` — the plain form is plain.
* `normalize_eq_self` — what it means for a name to be plain.
* `sameName_iff` — names are compared by their plain forms.
-/

namespace Markbook

@[simp] lemma toList_normalize (name : String) :
    (normalize name).toList = name.toList.filter (!isBlank ·) := by
  simp [normalize]

@[simp] lemma normalize_normalize (name : String) :
    normalize (normalize name) = normalize name := by
  apply String.toList_inj.mp
  simp [List.filter_filter]

/-- A name is its own plain form exactly when it has no white space. -/
lemma normalize_eq_self {name : String} :
    normalize name = name ↔ ∀ c ∈ name.toList, isBlank c = false := by
  rw [← String.toList_inj, toList_normalize, List.filter_eq_self]
  simp

@[simp] lemma sameName_iff {a b : String} : sameName a b = true ↔ normalize a = normalize b := by
  simp [sameName]

end Markbook
