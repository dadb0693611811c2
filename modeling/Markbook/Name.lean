import Markbook.Text.Blank

/-!
# Names

Names of grade items are compared without their white space: `Test 1`, `Test1` and ` Test  1 ` name
one item.  Formulas lose their white space in the same way before they are read, so a name typed
bare in a formula is already in its plain form.

* `normalize` — the name without white space.
* `sameName` — equality of names.
-/

namespace Markbook

/-- The text without any white space. -/
def normalize (text : String) : String :=
  String.ofList (text.toList.filter (!isBlank ·))

/-- Do two spellings name the same thing? -/
def sameName (a b : String) : Bool :=
  normalize a == normalize b

end Markbook
