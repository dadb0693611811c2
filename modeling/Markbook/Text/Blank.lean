import Markbook.Text.Ranges

/-!
# White space

Names and formulas are typed with any spacing the author likes, so white space is whatever Unicode
gives the property `White_Space`: the ASCII blanks, the no-break and typographic spaces, and the
line and paragraph separators.  The zero-width space is not among them.
-/

namespace Markbook

/-- White space beyond ASCII. -/
def wideBlanks : Ranges :=
  [(0x85, 0x85), (0xa0, 0xa0), (0x1680, 0x1680), (0x2000, 0x200a), (0x2028, 0x2029),
    (0x202f, 0x202f), (0x205f, 0x205f), (0x3000, 0x3000)]

/-- Is this white space? -/
def isBlank (c : Char) : Bool :=
  if c.toNat < 0x80 then c.toNat = 0x20 || (0x09 ≤ c.toNat && c.toNat ≤ 0x0d)
  else wideBlanks.holds c

/-- The text without the white space at its ends. -/
def trimBlanks (cs : List Char) : List Char :=
  ((cs.dropWhile isBlank).reverse.dropWhile isBlank).reverse

end Markbook
