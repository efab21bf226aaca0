import ArgCheck.Pattern.Escape

set_option autoImplicit false

/-!
# Reading sets of characters

A set stands in brackets and holds characters, ranges, named classes and other sets. Where the first
character would close the set it is part of it, and so are hyphens at the beginning. Doubled signs
between two parts of a set combine them, from left to right.
-/

namespace ArgCheck.Pattern

def classNames : List String :=
  ["alnum", "alpha", "ascii", "blank", "cntrl", "digit", "graph", "lower", "print", "punct", "space",
    "upper", "word", "xdigit"]

def takeNamed : List Char → Option (CharSet × List Char)
  | ':' :: rest =>
    let (negated, rest) := match rest with
      | '^' :: rest => (true, rest)
      | rest => (false, rest)
    let (name, rest) := rest.span (· ≠ ':')
    match rest with
    | ':' :: ']' :: rest =>
      let name := String.ofList name
      if classNames.contains name then some (.named negated name, rest) else none
    | _ => none
  | _ => none

def takeItem (spaced : Bool) : List Char → Option (Atom × List Char)
  | [] => none
  | '\\' :: rest => takeEscape spaced rest
  | c :: rest => some (.literal { char := c }, rest)

/-- An assertion cannot be in a set. -/
def itemSet? : Atom → Option CharSet
  | .literal l => some (.literal l)
  | .set s => some s
  | _ => none

def range? : Atom → Atom → Option CharSet
  | .literal first, .literal last =>
    if first.char ≤ last.char then some (.range first last) else none
  | _, _ => none

/-- A character, or two with a hyphen between them. A hyphen before the end of the set or before
another hyphen makes no range. -/
def takeRange (spaced : Bool) (text : List Char) : Option (CharSet × List Char) := do
  let (first, rest) ← takeItem spaced text
  match skip spaced rest with
  | [] => none
  | '-' :: rest =>
    let next := glance spaced rest
    if next = some ']' ∨ next = some '-' then
      (itemSet? first).map fun set => (set, '-' :: rest)
    else
      let (last, rest) ← takeItem spaced (skip spaced rest)
      (range? first last).map fun set => (set, rest)
  | rest => (itemSet? first).map fun set => (set, rest)

def takeNegation (spaced : Bool) : List Char → Bool × List Char
  | '^' :: rest => (true, skip spaced rest)
  | text => (false, text)

def takeHyphens (spaced : Bool) : Nat → List Char → List CharSet × List Char
  | count + 1, '-' :: rest =>
    let (items, rest) := takeHyphens spaced count (skip spaced rest)
    (.literal { char := '-' } :: items, rest)
  | _, text => ([], text)

def takeFirst (spaced : Bool) (text : List Char) : List CharSet × List Char :=
  match takeHyphens spaced text.length text with
  | ([], ']' :: rest) => ([.literal { char := ']' }], skip spaced rest)
  | taken => taken

/-- What stands before an operation, with its sign. -/
abbrev Operand := Option (SetOperation × CharSet)

/-- The items since the last operation, the last one first, and what stands before them. -/
def combine (before : Operand) (items : List CharSet) : CharSet :=
  let last := CharSet.ofItems items.reverse
  match before with
  | none => last
  | some (op, left) => .operation op left last

mutual

def takeSet (spaced : Bool) : Nat → List Char → Option (CharSet × List Char)
  | 0, _ => none
  | fuel + 1, text => do
    let (negated, text) := takeNegation spaced (skip spaced text)
    let (first, text) := takeFirst spaced text
    let (inner, rest) ← takeItems spaced none first.reverse fuel text
    some (.bracketed negated inner, rest)

def takeItems (spaced : Bool) (before : Operand) (items : List CharSet) :
    Nat → List Char → Option (CharSet × List Char)
  | 0, _ => none
  | fuel + 1, text =>
    match skip spaced text with
    | [] => none
    | ']' :: rest => some (combine before items, rest)
    | '[' :: rest =>
      match takeNamed rest with
      | some (set, rest) => takeItems spaced before (set :: items) fuel rest
      | none =>
        match takeSet spaced fuel rest with
        | some (set, rest) => takeItems spaced before (set :: items) fuel rest
        | none => none
    | '&' :: '&' :: rest =>
      takeItems spaced (some (.intersection, combine before items)) [] fuel rest
    | '-' :: '-' :: rest =>
      takeItems spaced (some (.difference, combine before items)) [] fuel rest
    | '~' :: '~' :: rest =>
      takeItems spaced (some (.symmetricDifference, combine before items)) [] fuel rest
    | text =>
      match takeRange spaced text with
      | some (set, rest) => takeItems spaced before (set :: items) fuel rest
      | none => none

end

end ArgCheck.Pattern
