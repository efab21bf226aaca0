set_option autoImplicit false

/-!
# Patterns

A pattern describes texts: by literal characters, sets of characters, assertions about places,
repetition, groups and alternatives. Flags may change in the middle of a pattern; a change holds up to
the end of the group around it, whatever alternatives there are in between.
-/

namespace ArgCheck

inductive Flag where
  | caseless
  | multiLine
  | dotMatchesAll
  | swapGreed
  | unicode
  | crlf
  /-- Blanks and comments do not count. -/
  | spaced
  deriving DecidableEq, Repr

structure FlagChange where
  set : List Flag := []
  cleared : List Flag := []
  deriving DecidableEq, Repr

namespace FlagChange

def isEmpty (change : FlagChange) : Bool := change.set.isEmpty && change.cleared.isEmpty

def apply (change : FlagChange) (flag : Flag) (before : Bool) : Bool :=
  if flag ∈ change.set then true else if flag ∈ change.cleared then false else before

end FlagChange

/-- A character, and whether it is written as a byte of two hexadecimal digits. -/
structure Literal where
  char : Char
  isByte : Bool := false
  deriving DecidableEq, Repr

inductive Assertion where
  | lineStart
  | lineEnd
  | textStart
  | textEnd
  | wordBoundary
  | notWordBoundary
  | wordStart
  | wordEnd
  deriving DecidableEq, Repr

def Assertion.aboutWords : Assertion → Bool
  | .wordBoundary => true
  | .notWordBoundary => true
  | .wordStart => true
  | .wordEnd => true
  | _ => false

inductive SetOperation where
  | intersection
  | difference
  | symmetricDifference
  deriving DecidableEq, Repr

inductive CharSet where
  | empty
  | literal (l : Literal)
  | range (first last : Literal)
  /-- A class of ASCII characters by its name. -/
  | named (negated : Bool) (name : String)
  /-- The digits, the blanks or the characters of words, by a letter. -/
  | shorthand (negated : Bool)
  | bracketed (negated : Bool) (inner : CharSet)
  | union (items : List CharSet)
  | operation (op : SetOperation) (left right : CharSet)

inductive Atom where
  | literal (l : Literal)
  | dot
  | assertion (a : Assertion)
  | set (s : CharSet)

inductive Pattern where
  | empty
  | flags (change : FlagChange)
  | atom (a : Atom)
  | repeated (inner : Pattern)
  | group (change : FlagChange) (inner : Pattern)
  | alternatives (branches : List Pattern)
  | sequence (parts : List Pattern)

namespace CharSet

def ofItems : List CharSet → CharSet
  | [] => empty
  | [item] => item
  | items => union items

mutual

/-- How deep brackets, unions and operations nest. -/
def depth : CharSet → Nat
  | bracketed _ inner => inner.depth + 1
  | union items => itemsDepth items + 1
  | operation _ left right => max left.depth right.depth + 1
  | _ => 0

def itemsDepth : List CharSet → Nat
  | [] => 0
  | item :: rest => max item.depth (itemsDepth rest)

end

end CharSet

namespace Atom

def depth : Atom → Nat
  | .set s => s.depth
  | _ => 0

end Atom

namespace Pattern

def ofParts : List Pattern → Pattern
  | [] => empty
  | [part] => part
  | parts => sequence parts

def ofBranches : List Pattern → Pattern
  | [] => empty
  | [branch] => branch
  | branches => alternatives branches

def isRepeatable : Pattern → Bool
  | .empty => false
  | .flags _ => false
  | _ => true

mutual

def depth : Pattern → Nat
  | .empty => 0
  | .flags _ => 0
  | .atom a => a.depth
  | .repeated inner => inner.depth + 1
  | .group _ inner => inner.depth + 1
  | .alternatives branches => partsDepth branches + 1
  | .sequence parts => partsDepth parts + 1

def partsDepth : List Pattern → Nat
  | [] => 0
  | part :: rest => max part.depth (partsDepth rest)

end

end Pattern

end ArgCheck
