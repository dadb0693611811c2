import Markbook.Json.Basic

/-!
# Writing JSON

Values are written over several lines, each level being indented by two spaces.  Empty arrays and
objects stay on one line.

* `Json.writeString` — a string with its escapes.
* `Json.print` — the text of a value.
-/

namespace Markbook.Json

/-- A hexadecimal digit. -/
def hexDigit (n : Nat) : Char :=
  Nat.digitChar n

/-- One character of a string.  Only quotes, backslashes and control characters are escaped. -/
def writeChar (c : Char) : List Char :=
  if c = '"' then ['\\', '"']
  else if c = '\\' then ['\\', '\\']
  else if c = '\x08' then ['\\', 'b']
  else if c = '\x0c' then ['\\', 'f']
  else if c = '\n' then ['\\', 'n']
  else if c = '\r' then ['\\', 'r']
  else if c = '\t' then ['\\', 't']
  else if c.toNat < 0x20 then
    ['\\', 'u', '0', '0', hexDigit (c.toNat / 16), hexDigit (c.toNat % 16)]
  else [c]

/-- A string between its quotes. -/
def writeString (content : List Char) : List Char :=
  '"' :: content.flatMap writeChar ++ ['"']

/-- A new line at the given level. -/
def newLine (level : Nat) : List Char :=
  '\n' :: List.replicate (2 * level) ' '

/-- The text of a content that may be absent. -/
def writeContent (content : Option String) : List Char :=
  writeString ((content.map String.toList).getD [])

mutual

/-- The text of a value at the given level. -/
def write (level : Nat) : Json → List Char
  | null => ['n', 'u', 'l', 'l']
  | bool true => ['t', 'r', 'u', 'e']
  | bool false => ['f', 'a', 'l', 's', 'e']
  | number negative n => (if negative then ['-'] else []) ++ n.chars layout.plusSign
  | text content => writeContent content
  | array [] => ['[', ']']
  | array (x :: xs) =>
    '[' :: newLine (level + 1) ++ write (level + 1) x ++ writeElements (level + 1) xs
      ++ newLine level ++ [']']
  | object [] => ['\x7b', '\x7d']
  | object ((name, x) :: ms) =>
    '\x7b' :: newLine (level + 1) ++ writeContent name ++ ':' :: ' ' :: write (level + 1) x
      ++ writeMembers (level + 1) ms ++ newLine level ++ ['\x7d']

/-- The elements behind the first, each on a line of its own. -/
def writeElements (level : Nat) : List Json → List Char
  | [] => []
  | x :: xs => ',' :: newLine level ++ write level x ++ writeElements level xs

/-- The members behind the first, each on a line of its own. -/
def writeMembers (level : Nat) : List (Option String × Json) → List Char
  | [] => []
  | (name, x) :: ms =>
    ',' :: newLine level ++ writeContent name ++ ':' :: ' ' :: write level x
      ++ writeMembers level ms

end

/-- The text of a value. -/
def print (x : Json) : String :=
  String.ofList (write 0 x)

end Markbook.Json
