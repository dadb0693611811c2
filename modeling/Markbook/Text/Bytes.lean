/-!
# Places counted in bytes

A text is stored as a row of bytes in which one character takes one to four.  Messages give places
in bytes, and a piece that is cut out by two such places exists only if neither of them lies inside
a character.

* `byteLength` — the number of bytes.
* `cutBytes?` — the piece between two places.
-/

namespace Markbook

/-- The number of bytes that a text takes. -/
def byteLength (cs : List Char) : Nat :=
  cs.foldl (fun bytes c => bytes + c.utf8Size) 0

/-- The text without its first `n` bytes. -/
def dropBytes? : Nat → List Char → Option (List Char)
  | 0, cs => some cs
  | _ + 1, [] => none
  | n + 1, c :: cs => if c.utf8Size ≤ n + 1 then dropBytes? (n + 1 - c.utf8Size) cs else none

/-- The first `n` bytes of the text. -/
def takeBytes? : Nat → List Char → Option (List Char)
  | 0, _ => some []
  | _ + 1, [] => none
  | n + 1, c :: cs =>
    if c.utf8Size ≤ n + 1 then (takeBytes? (n + 1 - c.utf8Size) cs).map (c :: ·) else none

/-- The piece of the text from one place to another, if it can be cut out there. -/
def cutBytes? (cs : List Char) (start stop : Nat) : Option (List Char) := do
  takeBytes? (stop - start) (← dropBytes? start cs)

end Markbook
