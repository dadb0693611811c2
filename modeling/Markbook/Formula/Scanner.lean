import Mathlib.Tactic.Common
import Markbook.Formula.Error

/-!
# Cutting a text in place

The tokens of a text need not all be cut before the first is read.  A scanner stands in the text,
counts in bytes how far it has come and cuts the next token when it is asked to.  It looks at the
text by slicing it at offsets in bytes, and an offset may lie beyond the end or within a character.
The text cannot be sliced there, so a scanner may have to stop at once.

Nothing in the text bounds how far a scanner runs.  What recurs therefore gets the number of rounds
that it may go, and there is no result, which is what `none` stands for, if it is not done by then.
A scanner comes to an end if the result is there once the number is large enough.

* `Scanner`, `Scan` — where a scanner stands, and what it does.
* `Scan.Ends` — how a scan comes to an end.
* `Scan.slice` — the text between two offsets.
* `Scan.token` — cuts a token, `Scan.known` one of the names known to the scanner.
* `Scan.advance` — goes on to the next token.
-/

namespace Markbook

/-- Where a scanner stands, with the counters of the parser that it works for. -/
structure Scanner where
  /-- How many bytes have been taken. -/
  position : Nat
  /-- Where the token in hand starts. -/
  start : Nat
  /-- The token in hand. -/
  token : Token
  /-- How many operands lie around the token. -/
  depth : Nat
  operators : Nat

namespace Scanner

/-- A scanner before its first token. -/
def initial : Scanner :=
  ⟨0, 0, .eof, 0, 0⟩

/-- Moves to another offset. -/
def moveTo (s : Scanner) (position : Nat) : Scanner :=
  { s with position }

/-- Lets the next token start here. -/
def mark (s : Scanner) : Scanner :=
  { s with start := s.position }

/-- Takes a token in hand. -/
def hold (s : Scanner) (token : Token) : Scanner :=
  { s with token }

/-- Counts an operator. -/
def count (s : Scanner) : Scanner :=
  { s with operators := s.operators + 1 }

/-- Goes into an operand. -/
def enter (s : Scanner) : Scanner :=
  { s with depth := s.depth + 1 }

/-- Leaves an operand. -/
def leave (s : Scanner) : Scanner :=
  { s with depth := s.depth - 1 }

end Scanner

/-- Why a scanner stops. -/
inductive Halt where
  /-- The text cannot be sliced at an offset. -/
  | badSlice
  /-- The text is no formula. -/
  | refused (cause : FormulaError)

/-- What a scanner does: it moves on and answers or stops, unless it is not done yet. -/
abbrev Scan := ExceptT Halt (StateT Scanner Option)

namespace Scan

/-- Has used up its rounds. -/
def unfinished {α : Type} : Scan α :=
  ExceptT.mk fun _ => none

/-- From `s` the scan comes to an end with `r`, in the state `s'`, if it may go enough rounds. -/
def Ends {α : Type} (p : Nat → Scan α) (s : Scanner) (r : Except Halt α) (s' : Scanner) : Prop :=
  ∃ n, ∀ m, n ≤ m → (p m).run s = some (r, s')

/-! ## Looking at the text -/

/-- The text between two offsets in bytes.  They have to be in order, and each has to be the
boundary of a character. -/
def slice (text : String) (i j : Nat) : Scan String :=
  if i ≤ j ∧ String.Pos.Raw.isValid text ⟨i⟩ = true ∧ String.Pos.Raw.isValid text ⟨j⟩ = true then
    pure (String.Pos.Raw.extract text ⟨i⟩ ⟨j⟩)
  else throw .badSlice

section

variable (text : String)

/-- The text that has not been taken yet. -/
def rest : Scan String := do
  slice text (← get).position text.utf8ByteSize

/-- The next character. -/
def peek : Scan (Option Char) := do
  return (← rest text).toList.head?

/-- Takes a character, if there is one. -/
def step : Scan Unit := do
  match ← peek text with
  | some c => modify fun s => s.moveTo (s.position + c.utf8Size)
  | none => return ()

/-- Takes all characters of a kind. -/
def skipWhile (p : Char → Bool) : Nat → Scan Unit
  | 0 => unfinished
  | n + 1 => do
    match ← peek text with
    | some c =>
      if p c then
        step text
        skipWhile p n
      else return ()
    | none => return ()

/-! ## Names known to the scanner -/

/-- Does the name stand on its own at the start of `rest`, `before` being the character in
front? -/
def stands (rest : String) (before : Option Char) (name : String) : Scan Bool := do
  if !name.toList.isPrefixOf rest.toList then return false
  else if name.toList.head?.any isNameChar && before.any isNameChar then return false
  else if name.toList.getLast?.any isNameChar then
    let behind ← slice rest name.utf8ByteSize rest.utf8ByteSize
    return !behind.toList.head?.any isNameChar
  else return true

/-- The first of several names that stands there. -/
def findKnown (rest : String) (before : Option Char) : List String → Scan (Option String)
  | [] => return none
  | n :: ns => do
    if ← stands rest before n then return some n
    else findKnown rest before ns

/-- Takes a name known to the scanner, if there is one. -/
def known (names : List String) : Scan (Option Token) := do
  let position := (← get).position
  let left ← rest text
  let front ← slice text 0 position
  match ← findKnown left front.toList.getLast? names with
  | some n =>
    modify (·.moveTo (position + n.utf8ByteSize))
    return some (.name n)
  | none => return none

/-! ## Other tokens -/

/-- Where a character stands for the first time, counted in bytes. -/
def find? (c : Char) : List Char → Option Nat
  | [] => none
  | d :: ds => if d = c then some 0 else (find? c ds).map (d.utf8Size + ·)

/-- A name in brackets, up to the first closing bracket.  Without one the rest of the text is
invalid. -/
def bracketed : Scan Token := do
  let start := (← get).position
  step text
  let position := (← get).position
  match find? ']' (← rest text).toList with
  | some n =>
    let inner ← slice text position (position + n)
    modify (·.moveTo (position + n + 1))
    return .name (normalize inner)
  | none =>
    modify (·.moveTo text.utf8ByteSize)
    return .invalid (← slice text start text.utf8ByteSize)

/-- A run of name characters. -/
def word (n : Nat) : Scan Token := do
  let start := (← get).position
  skipWhile text isNameChar n
  return .word (← slice text start (← get).position)

/-- A run of digits and points.  Where it turns out to be a word, the scanner goes back. -/
def number (n : Nat) : Scan Token := do
  let start := (← get).position
  skipWhile text isNumberChar n
  let run ← slice text start (← get).position
  if !run.toList.contains '.' && (← peek text).any isNameChar then
    modify (·.moveTo start)
    word text n
  else match readNumeral? run.toList with
    | some numeral => return .number numeral.toDecimal.toFloat
    | none => return .invalid run

/-- A token that begins with `c` and does not come from the names known to the scanner. -/
def plain (c : Char) (n : Nat) : Scan Token := do
  match Token.ofSign? c with
  | some t =>
    step text
    return t
  | none =>
    if c = '[' then bracketed text
    else if isNumberChar c then number text n
    else if isNameChar c then word text n
    else
      step text
      return .invalid (String.singleton c)

/-- The token at the position, which is left behind. -/
def token (names : List String) (n : Nat) : Scan Token := do
  match ← peek text with
  | none => return .eof
  | some c =>
    match ← if c = '[' then pure none else known text names with
    | some t => return t
    | none => plain text c n

/-- Goes on to the next token. -/
def advance (names : List String) (n : Nat) : Scan Unit := do
  skipWhile text isBlank n
  modify Scanner.mark
  let t ← token text names n
  modify (·.hold t)

end

end Scan

end Markbook
