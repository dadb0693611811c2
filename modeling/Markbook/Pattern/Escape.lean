import Markbook.Pattern.Basic
import Markbook.Text.Blank
import Markbook.Text.Hexadecimal

/-!
# Escapes in patterns

A backslash gives a sign its plain meaning and a letter a special one.  Escapes with braces do not
exist here, since a pattern stands in braces itself and no brace in it is ever closed.

With the flag `x`, white space and comments may stand between the signs of a pattern, even between
the digits of an escape.

* `skipComments` — skips white space and comments if the flag is set.
* `Escape.read?` — reads an escape.
-/

namespace Markbook

/-- The text behind white space and comments, of which the first may have been entered already. -/
def behindComments : Bool → List Char → List Char
  | _, [] => []
  | true, c :: cs => behindComments (c != '\n') cs
  | false, c :: cs =>
    if isBlank c then behindComments false cs
    else if c = '#' then behindComments true cs
    else c :: cs

/-- Skips white space and comments if the flag `x` is set. -/
def skipComments (verbose : Bool) (cs : List Char) : List Char :=
  if verbose then behindComments false cs else cs

/-- What an escape stands for. -/
inductive Escape where
  | char (c : PatternChar)
  | named (isAscii : Bool)
  | place (ofWord : Bool)

namespace Escape

/-- The pattern of an escape. -/
def toPattern : Escape → Pattern
  | char c => .char c
  | named isAscii => .named isAscii
  | place ofWord => .place ofWord

/-- The value of a number of hexadecimal digits, and the text behind them. -/
def readDigits? (verbose : Bool) : Nat → Nat → List Char → Option (Nat × List Char)
  | 0, value, cs => some (value, skipComments verbose cs)
  | digits + 1, value, cs =>
    match skipComments verbose cs with
    | [] => none
    | c :: cs => (hexDigit? c).bind fun digit => readDigits? verbose digits (16 * value + digit) cs

/-- A character given by its code point. -/
def readCodePoint? (verbose : Bool) (digits : Nat) (cs : List Char) :
    Option (Escape × List Char) := do
  let (n, rest) ← readDigits? verbose digits 0 cs
  if n.isValidChar then some (char ⟨Char.ofNat n, digits = 2⟩, rest) else none

/-- The letters of the general categories. -/
def categories : List Char :=
  ['c', 'l', 'm', 'n', 'p', 's', 'z']

/-- A set given by the letter of a general category. -/
def readCategory? (verbose : Bool) (cs : List Char) : Option (Escape × List Char) :=
  match skipComments verbose cs with
  | [] => none
  | c :: cs =>
    if categories.contains c.toLower then some (named false, skipComments verbose cs) else none

/-- Escapes of one letter. -/
def ofLetter? : Char → Option Escape
  | 'a' => some (char ⟨'\x07', false⟩)
  | 'f' => some (char ⟨'\x0c', false⟩)
  | 'n' => some (char ⟨'\n', false⟩)
  | 'r' => some (char ⟨'\r', false⟩)
  | 't' => some (char ⟨'\t', false⟩)
  | 'v' => some (char ⟨'\x0b', false⟩)
  | 'd' | 's' | 'w' => some (named true)
  | 'D' | 'S' | 'W' => some (named false)
  | 'b' | 'B' | '<' | '>' => some (place true)
  | 'A' | 'z' => some (place false)
  | _ => none

/-- Reads an escape behind its backslash, and gives the text behind it.  A sign of ASCII that is
neither letter nor digit stands for itself. -/
def read? (verbose : Bool) : List Char → Option (Escape × List Char)
  | [] => none
  | 'x' :: cs => readCodePoint? verbose 2 cs
  | 'u' :: cs => readCodePoint? verbose 4 cs
  | 'U' :: cs => readCodePoint? verbose 8 cs
  | 'p' :: cs => readCategory? verbose cs
  | 'P' :: cs => readCategory? verbose cs
  | c :: cs =>
    match ofLetter? c with
    | some escape => some (escape, cs)
    | none => if c.toNat < 0x80 && !c.isAlphanum then some (char ⟨c, false⟩, cs) else none

end Escape

end Markbook
