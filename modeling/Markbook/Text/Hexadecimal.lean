/-!
# Hexadecimal digits

Escapes name a character or a code unit by hexadecimal digits, whose letters may have either case.

* `hexDigit?` — the value of a digit.
-/

namespace Markbook

/-- The value of a hexadecimal digit. -/
def hexDigit? (c : Char) : Option Nat :=
  if c.isDigit then some (c.toNat - '0'.toNat)
  else if 'a' ≤ c ∧ c ≤ 'f' then some (c.toNat - 'a'.toNat + 10)
  else if 'A' ≤ c ∧ c ≤ 'F' then some (c.toNat - 'A'.toNat + 10)
  else none

end Markbook
