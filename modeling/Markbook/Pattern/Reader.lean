import Markbook.Pattern.Class
import Markbook.Text.Letter

/-!
# Reading patterns

```text
choice     := sequence ('|' sequence)*
sequence   := (item repetition* | '(?' flags ')')*
repetition := ('*' | '+' | '?') ['?']
item       := character | '.' | '^' | '$' | '\' escape | '[' class ']' | group
group      := '(' ['?' flags ':' | '?<' name '>' | '?P<' name '>'] choice ')'
```

A pattern stands in braces itself, so no brace in it is ever closed: repetitions with a count do not
exist here, and an opening brace outside a class is an error.

* `Pattern.read?` — reads a pattern.
* `isPattern` — is this a pattern that can be compiled?
-/

namespace Markbook

/-! ## Flags and names -/

/-- The letters of the flags. -/
def flagLetters : List Char :=
  ['i', 'm', 's', 'U', 'u', 'R', 'x']

/-- The change made by flags such as `i-u`.  No letter may come twice, and no hyphen at the end. -/
def FlagChange.read? (text : List Char) : Option FlagChange :=
  let on := text.takeWhile (· != '-')
  match text.dropWhile (· != '-') with
  | [] => if on.all flagLetters.contains && decide on.Nodup then some ⟨on, []⟩ else none
  | _ :: off =>
    let letters := on ++ off
    if off != [] && letters.all flagLetters.contains && decide letters.Nodup then some ⟨on, off⟩
    else none

/-- Is this the name of a group? -/
def isGroupName : List Char → Bool
  | [] => false
  | c :: cs =>
    (c == '_' || c.isAlpha || alphabetic.holds c)
      && cs.all fun c => isNameChar c || c == '.' || c == '[' || c == ']'

namespace Pattern

/-! ## What has been read -/

/-- The pattern of the items in a sequence, which are given in reverse. -/
def ofItems : List Pattern → Pattern
  | [p] => p
  | ps => sequence ps.reverse

/-- The pattern of a last sequence and the sequences in front of it, which are given in reverse. -/
def ofSequences (earlier : List Pattern) (items : List Pattern) : Pattern :=
  match earlier with
  | [] => ofItems items
  | ps => choice (ofItems items :: ps).reverse

/-- An open group: its flags, and what was read in front of it. -/
structure OpenGroup where
  change : FlagChange
  verbose : Bool
  earlier : List Pattern
  items : List Pattern

/-- What has been read of a pattern: whether the flag `x` is set, the sequences of the innermost
group and the items of its last one in reverse, the open groups, and the names of groups. -/
structure Progress where
  verbose : Bool
  earlier : List Pattern
  items : List Pattern
  groups : List OpenGroup
  names : List (List Char)

namespace Progress

/-- Nothing is read yet. -/
def start : Progress :=
  ⟨false, [], [], [], []⟩

/-- Adds an item. -/
def add (s : Progress) (p : Pattern) : Progress :=
  { s with items := p :: s.items }

/-- Opens a group. -/
def openGroup (s : Progress) (change : FlagChange) : Progress :=
  { s with
    verbose := change.apply 'x' s.verbose
    earlier := []
    items := []
    groups := ⟨change, s.verbose, s.earlier, s.items⟩ :: s.groups }

/-- Closes the innermost group. -/
def closeGroup? (s : Progress) : Option Progress :=
  match s.groups with
  | [] => none
  | g :: groups =>
    some { s with
      verbose := g.verbose
      earlier := g.earlier
      items := group g.change (ofSequences s.earlier s.items) :: g.items
      groups }

/-- Repeats the last item.  Flags cannot be repeated. -/
def repeatLast? (s : Progress) : Option Progress :=
  match s.items with
  | [] | flags _ :: _ => none
  | p :: items => some { s with items := repeated p :: items }

/-! ## Reading on -/

/-- Opens a group whose name begins with the text. -/
def openNamed? (s : Progress) (cs : List Char) : Option (Progress × List Char) :=
  let name := cs.takeWhile (· != '>')
  match cs.dropWhile (· != '>') with
  | [] => none
  | _ :: rest =>
    if isGroupName name && !s.names.contains name then
      some ({ s.openGroup ⟨[], []⟩ with names := name :: s.names }, rest)
    else none

/-- Sets flags, for a group if a colon follows them, else to the end of the group around them. -/
def setFlags? (s : Progress) (cs : List Char) : Option (Progress × List Char) := do
  let text := cs.takeWhile fun c => c != ':' && c != ')'
  let change ← FlagChange.read? text
  match cs.drop text.length with
  | ':' :: rest => some (s.openGroup change, rest)
  | ')' :: rest =>
    if text = [] then none
    else some ({ s.add (flags change) with verbose := change.apply 'x' s.verbose }, rest)
  | _ => none

/-- Opens a group behind its parenthesis. -/
def openAny? (s : Progress) : List Char → Option (Progress × List Char)
  | '?' :: 'P' :: '<' :: cs => s.openNamed? cs
  | '?' :: '<' :: cs => s.openNamed? cs
  | '?' :: cs => s.setFlags? cs
  | cs => some (s.openGroup ⟨[], []⟩, cs)

/-- Reads what stands at the start of `c :: cs`, and gives the text behind it. -/
def next? (s : Progress) (c : Char) (cs : List Char) : Option (Progress × List Char) :=
  match c with
  | '(' => s.openAny? (skipComments s.verbose cs)
  | ')' => s.closeGroup?.map fun s => (s, cs)
  | '|' => some ({ s with earlier := ofItems s.items :: s.earlier, items := [] }, cs)
  | '[' => (ClassSet.read? s.verbose cs).map fun (p, rest) => (s.add p, rest)
  | '\\' => (Escape.read? s.verbose cs).map fun (e, rest) => (s.add e.toPattern, rest)
  | '*' | '+' | '?' =>
    s.repeatLast?.map fun s => (s, if cs.head? = some '?' then cs.drop 1 else cs)
  | '\x7b' => none
  | '.' => some (s.add any, cs)
  | '^' | '$' => some (s.add (place false), cs)
  | c => some (s.add (char ⟨c, false⟩), cs)

/-- The pattern that has been read, if all groups are closed. -/
def finish? (s : Progress) : Option Pattern :=
  if s.groups.isEmpty then some (ofSequences s.earlier s.items) else none

end Progress

/-- Reads the rest of a pattern.  The number of characters bounds the number of steps. -/
def readFrom? : Nat → Progress → List Char → Option Pattern
  | fuel, s, cs =>
    match fuel, skipComments s.verbose cs with
    | _, [] => s.finish?
    | 0, _ :: _ => none
    | fuel + 1, c :: cs => (s.next? c cs).bind fun (s, rest) => readFrom? fuel s rest

/-- Reads a pattern. -/
def read? (cs : List Char) : Option Pattern :=
  readFrom? cs.length .start cs

end Pattern

/-- Is this a pattern that can be compiled? -/
def isPattern (cs : List Char) : Bool :=
  (Pattern.read? cs).any Pattern.compiles

end Markbook
