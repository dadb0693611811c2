import Markbook.Decimal.Layout
import Markbook.Decimal.Reader
import Markbook.Name
import Markbook.Ordered
import Markbook.Text.Letter
import Markbook.Text.Quoted

/-!
# Tokens of a formula

The text of a formula is cut into tokens before it is parsed.  Cutting never fails: what the grammar
has no use for becomes an invalid token, and the parser decides what to make of it.

A name that contains punctuation, such as `Test-1` or `Lab (A)`, would fall apart into several
tokens.  The names in use are therefore known to the scanner, which takes such a name whole wherever
it stands on its own.

* `Token`, `Token.describe` — the tokens and how a message shows them.
* `punctuatedNames` — the names that the scanner has to know, longest first.
* `Token.next` — the token at a place, and how far it reaches.
* `Lexeme`, `lexemes` — the tokens of a text with the places where they start.
-/

namespace Markbook

/-- A token.  A name in brackets and a name known to the scanner are `name`s; a run of name
characters is a `word`, which may turn out to be the name of a function. -/
inductive Token where
  | number (value : Float)
  | word (text : String)
  | name (name : String)
  | plus
  | minus
  | star
  | slash
  | comma
  | leftParen
  | rightParen
  | invalid (text : String)
  | eof
  deriving DecidableEq

namespace Token

/-- Numbers in messages about tokens: a whole number ends in `.0`, and very large and very small
numbers have an exponent. -/
def numberLayout : Layout :=
  { tie := .upward
    positional := fun point => -4 < point && point ≤ 16
    pointZero := true
    plusSign := false }

/-- A kind of token with the text it holds. -/
def describeText (kind : String) (text : String) : String :=
  kind ++ "(" ++ String.ofList (quote text.toList) ++ ")"

/-- A token as a message shows it. -/
def describe : Token → String
  | number x => "Number(" ++ numberLayout.print x ++ ")"
  | word text => describeText "Identifier" text
  | name n => describeText "Variable" n
  | plus => "Plus"
  | minus => "Minus"
  | star => "Star"
  | slash => "Slash"
  | comma => "Comma"
  | leftParen => "LeftParen"
  | rightParen => "RightParen"
  | invalid text => describeText "Invalid" text
  | eof => "Eof"

end Token

/-! ## Names known to the scanner

Only names that a run of name characters cannot spell need to be known.  A name that starts with a
bracket would hide a bracketed name, and a name made of digits and points would hide a number, so
those are never known.  Of two names that fit, the longer one is meant.
-/

/-- May the character stand in an unsigned number? -/
def isNumberChar (c : Char) : Bool :=
  c.isDigit || c == '.'

/-- Must the scanner know this name to read it whole? -/
def isPunctuated (name : String) : Bool :=
  name.toList.head? != some '[' && !name.toList.all isNumberChar && !name.toList.all isNameChar

/-- Longer names come first, names of one length by their code points. -/
def longerFirst (a b : String) : Bool :=
  b.length < a.length || (a.length == b.length && textBefore a b)

/-- The names that the scanner has to know, in the order in which it tries them. -/
def punctuatedNames (names : List String) : List String :=
  orderedSet longerFirst ((names.map normalize).filter isPunctuated)

/-- Does the name stand on its own at the start of `cs`, `before` being the character in front?  A
name that starts or ends with a name character must not go on beyond that end. -/
def standsAt (before : Option Char) (cs : List Char) (name : String) : Bool :=
  let text := name.toList
  text.isPrefixOf cs
    && !(text.head?.any isNameChar && before.any isNameChar)
    && !(text.getLast?.any isNameChar && (cs.drop text.length).head?.any isNameChar)

/-! ## One token

Each function below gets a first character `c` and the rest `cs` of the text.  The answer is a
token and how many characters of `cs` belong to it besides `c`, so a token always takes at least one
character.
-/

namespace Token

/-- A name in brackets, up to the first closing bracket.  Without one the rest of the text is
invalid. -/
def bracketed (cs : List Char) : Token × Nat :=
  let inner := cs.takeWhile (· != ']')
  if inner.length = cs.length then (invalid (String.ofList ('[' :: cs)), cs.length)
  else (name (normalize (String.ofList inner)), inner.length + 1)

/-- A run of name characters. -/
def wordFrom (c : Char) (cs : List Char) : Token × Nat :=
  let rest := cs.takeWhile isNameChar
  (word (String.ofList (c :: rest)), rest.length)

/-- A run of digits and points.  Names such as `1stTerm` start with digits. -/
def numberFrom (c : Char) (cs : List Char) : Token × Nat :=
  let rest := cs.takeWhile isNumberChar
  let run := c :: rest
  if !run.contains '.' && (cs.drop rest.length).head?.any isNameChar then wordFrom c cs
  else match readNumeral? run with
    | some n => (number n.toDecimal.toFloat, rest.length)
    | none => (invalid (String.ofList run), rest.length)

/-- The token of a single sign. -/
def ofSign? : Char → Option Token
  | '+' => some plus
  | '-' => some minus
  | '*' => some star
  | '/' => some slash
  | ',' => some comma
  | '(' => some leftParen
  | ')' => some rightParen
  | _ => none

/-- A token that does not come from the names known to the scanner. -/
def plainNext (c : Char) (cs : List Char) : Token × Nat :=
  match ofSign? c with
  | some token => (token, 0)
  | none =>
    if c = '[' then bracketed cs
    else if isNumberChar c then numberFrom c cs
    else if isNameChar c then wordFrom c cs
    else (invalid (String.singleton c), 0)

/-- The token at the start of `c :: cs`, `before` being the character in front. -/
def next (names : List String) (before : Option Char) (c : Char) (cs : List Char) : Token × Nat :=
  match if c = '[' then none else names.find? (standsAt before (c :: cs)) with
  | some n => (name n, n.length - 1)
  | none => plainNext c cs

end Token

/-! ## All tokens -/

/-- A token and where it starts: how many bytes of the text stand before it, and the text from its
first character on. -/
structure Lexeme where
  token : Token
  offset : Nat
  suffix : List Char

/-- The tokens of `cs`.  The first `within` characters belong to a token that has been cut already,
`before` is the character in front and `offset` the number of bytes in front. -/
def lexemesFrom (names : List String) :
    Nat → Option Char → Nat → List Char → List Lexeme
  | _, _, _, [] => []
  | within + 1, _, offset, c :: cs => lexemesFrom names within (some c) (offset + c.utf8Size) cs
  | 0, before, offset, c :: cs =>
    if isBlank c then lexemesFrom names 0 (some c) (offset + c.utf8Size) cs
    else
      let (token, within) := Token.next names before c cs
      ⟨token, offset, c :: cs⟩ :: lexemesFrom names within (some c) (offset + c.utf8Size) cs

/-- The tokens of a text. -/
def lexemes (names : List String) (cs : List Char) : List Lexeme :=
  lexemesFrom names 0 none 0 cs

end Markbook
