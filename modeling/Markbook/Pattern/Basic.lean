/-!
# Patterns

A log filter can ask for the value of a field by a regular expression.  Nothing is matched here, but
a filter is refused if its expression cannot be compiled, so a pattern is a tree that tells what
matters for that: how deep it is, and which parts make sense without Unicode.

The flag `u`, which is set at the start, stands for Unicode.  Behind `(?-u)` a pattern speaks of
bytes, and whatever could match a byte of a longer character is refused.  With the flag set, the
edges of words are refused, as the automaton that a pattern is compiled to cannot find them.

* `Pattern` — the tree of a pattern.
* `Pattern.height`, `Pattern.maxHeight` — its depth and the bound on it.
* `Pattern.modeBehind?` — goes through a pattern and refuses what makes no sense.
* `Pattern.compiles` — can the pattern be compiled?
-/

namespace Markbook

/-- A character of a pattern.  Written as `\x` with two digits, it may also stand for a byte. -/
structure PatternChar where
  char : Char
  asByte : Bool
  deriving DecidableEq, Repr

/-- Is the character one of ASCII? -/
def PatternChar.isAscii (c : PatternChar) : Bool :=
  c.char.toNat < 0x80

mutual

/-- What stands between the brackets of a class: members side by side, or two sets with an operator
such as `&&` between them. -/
inductive ClassSet where
  | union (members : List ClassMember)
  | combined (left right : ClassSet)

/-- A member of a class: a class of its own, or a character, range or named set.  Of these only
counts whether they are sets of ASCII characters when Unicode is off. -/
inductive ClassMember where
  | plain (isAscii : Bool)
  | nested (negated : Bool) (set : ClassSet)

end

/-- The flags that are set and taken back at one place. -/
structure FlagChange where
  on : List Char
  off : List Char
  deriving DecidableEq, Repr

/-- The state of a flag behind a change. -/
def FlagChange.apply (change : FlagChange) (flag : Char) (before : Bool) : Bool :=
  (before || change.on.contains flag) && !change.off.contains flag

/-- The tree of a pattern. -/
inductive Pattern where
  /-- Flags, which hold to the end of the group around them. -/
  | flags (change : FlagChange)
  | char (c : PatternChar)
  /-- Any character. -/
  | any
  /-- A place between two characters, which may be the edge of a word. -/
  | place (ofWord : Bool)
  /-- A named set such as `\d`, and whether it is a set of ASCII characters when Unicode is off. -/
  | named (isAscii : Bool)
  | class (negated : Bool) (set : ClassSet)
  | repeated (p : Pattern)
  | group (change : FlagChange) (p : Pattern)
  | sequence (ps : List Pattern)
  | choice (ps : List Pattern)

/-! ## Depth -/

mutual

/-- How deep the sets of a class are nested.  Members that are alone do not count as a union. -/
def ClassSet.height : ClassSet → Nat
  | .union [] => 0
  | .union [m] => m.height
  | .union (m :: m' :: ms) => max m.height (ClassMember.heightAll (m' :: ms)) + 1
  | .combined l r => max l.height r.height + 1

/-- How deep a member of a class is. -/
def ClassMember.height : ClassMember → Nat
  | .plain _ => 0
  | .nested _ set => set.height + 1

/-- The depth of the deepest of several members. -/
def ClassMember.heightAll : List ClassMember → Nat
  | [] => 0
  | m :: ms => max m.height (ClassMember.heightAll ms)

end

namespace Pattern

mutual

/-- How deep a pattern is.  A sequence of nothing has no depth of its own. -/
def height : Pattern → Nat
  | flags _ | char _ | any | place _ | named _ => 0
  | .class _ set => set.height + 1
  | repeated p => p.height + 1
  | group _ p => p.height + 1
  | sequence [] => 0
  | sequence (p :: ps) => max p.height (heightAll ps) + 1
  | choice ps => heightAll ps + 1

/-- The depth of the deepest of several patterns. -/
def heightAll : List Pattern → Nat
  | [] => 0
  | p :: ps => max p.height (heightAll ps)

end

/-- No pattern may be deeper. -/
def maxHeight : Nat :=
  250

end Pattern

/-! ## Bytes and Unicode -/

mutual

/-- Is this a set of ASCII characters when Unicode is off? -/
def ClassSet.isAscii : ClassSet → Bool
  | .union ms => ClassMember.allAscii ms
  | .combined l r => l.isAscii && r.isAscii

/-- Is this member of a class a set of ASCII characters?  A negated class never is. -/
def ClassMember.isAscii : ClassMember → Bool
  | .plain isAscii => isAscii
  | .nested negated set => !negated && set.isAscii

/-- Are all these members sets of ASCII characters? -/
def ClassMember.allAscii : List ClassMember → Bool
  | [] => true
  | m :: ms => m.isAscii && ClassMember.allAscii ms

end

namespace Pattern

mutual

/-- Is Unicode on behind a pattern, if it is or is not before it?  There is no answer if the pattern
holds something that makes no sense. -/
def modeBehind? (unicode : Bool) : Pattern → Option Bool
  | flags change => some (change.apply 'u' unicode)
  | char c => if unicode || c.isAscii || !c.asByte then some unicode else none
  | any => if unicode then some unicode else none
  | place ofWord => if unicode && ofWord then none else some unicode
  | named isAscii => if unicode || isAscii then some unicode else none
  | .class negated set => if unicode || (!negated && set.isAscii) then some unicode else none
  | repeated p => modeBehind? unicode p
  | group change p => (modeBehind? (change.apply 'u' unicode) p).map fun _ => unicode
  | sequence ps => modeBehindAll? unicode ps
  | choice ps => modeBehindAll? unicode ps

/-- Is Unicode on behind several patterns?  Flags hold from one alternative to the next. -/
def modeBehindAll? (unicode : Bool) : List Pattern → Option Bool
  | [] => some unicode
  | p :: ps => (modeBehind? unicode p).bind fun unicode => modeBehindAll? unicode ps

end

/-- Can the pattern be compiled? -/
def compiles (p : Pattern) : Bool :=
  p.height ≤ maxHeight && (p.modeBehind? true).isSome

end Pattern

end Markbook
