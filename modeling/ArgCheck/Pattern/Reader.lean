import ArgCheck.Pattern.Sets
import ArgCheck.Text.Alphanumeric

set_option autoImplicit false

/-!
# Reading patterns

The grammar of patterns without braces: a brace that opens something is an error, because the texts that
patterns are taken from cannot hold a closing one. A group may have a name, which no other group has, or
flags. There is no looking ahead or behind.
-/

namespace ArgCheck.Pattern

/-- The text that is left, whether the pattern is spaced there, and the names of the groups so far. -/
structure Cursor where
  text : List Char
  spaced : Bool := false
  names : List (List Char) := []

def Cursor.at (cursor : Cursor) (text : List Char) : Cursor := { cursor with text }

def Cursor.skipped (cursor : Cursor) : Cursor := cursor.at (skip cursor.spaced cursor.text)

def flag? : Char → Option Flag
  | 'i' => some .caseless
  | 'm' => some .multiLine
  | 's' => some .dotMatchesAll
  | 'U' => some .swapGreed
  | 'u' => some .unicode
  | 'R' => some .crlf
  | 'x' => some .spaced
  | _ => none

/-- Flags up to a colon or a closing parenthesis. Each flag stands once; after a hyphen, which must not
be the last sign, flags are cleared. -/
def takeFlags (change : FlagChange) (clearing : Bool) :
    List Char → Option (FlagChange × List Char)
  | [] => none
  | '-' :: rest =>
    if clearing ∨ rest.head? = some ':' ∨ rest.head? = some ')' then none
    else takeFlags change true rest
  | c :: rest =>
    if c = ':' ∨ c = ')' then some (change, c :: rest)
    else
      match flag? c with
      | none => none
      | some flag =>
        if flag ∈ change.set ∨ flag ∈ change.cleared then none
        else if clearing then takeFlags { change with cleared := flag :: change.cleared } true rest
        else takeFlags { change with set := flag :: change.set } false rest

def startsName (c : Char) : Bool := c == '_' || Text.isAlphabetic c

def isNameChar (c : Char) : Bool :=
  c == '_' || c == '.' || c == '[' || c == ']' || Text.isAlphanumeric c

def takeGroupName (cursor : Cursor) (text : List Char) : Option Cursor :=
  match text.span (· ≠ '>') with
  | (c :: rest, _ :: text) =>
    if startsName c && rest.all isNameChar && !cursor.names.contains (c :: rest) then
      some { cursor with text, names := (c :: rest) :: cursor.names }
    else none
  | _ => none

def looksAround : List Char → Bool
  | '?' :: '=' :: _ => true
  | '?' :: '!' :: _ => true
  | '?' :: '<' :: '=' :: _ => true
  | '?' :: '<' :: '!' :: _ => true
  | _ => false

inductive Opening where
  /-- Flags alone, up to the end of the group around them. -/
  | flags (change : FlagChange)
  | group (change : FlagChange)

def takeOpening (cursor : Cursor) : Option (Opening × Cursor) :=
  if looksAround cursor.text then none
  else
    match cursor.text with
    | '?' :: 'P' :: '<' :: rest =>
      (takeGroupName cursor rest).map fun cursor => (.group {}, cursor)
    | '?' :: '<' :: rest => (takeGroupName cursor rest).map fun cursor => (.group {}, cursor)
    | '?' :: rest =>
      match takeFlags {} false rest with
      | some (change, ':' :: rest) => some (.group change, cursor.at rest)
      | some (change, _ :: rest) =>
        if change.isEmpty then none else some (.flags change, cursor.at rest)
      | _ => none
    | _ => some (.group {}, cursor)

def Cursor.change (cursor : Cursor) (change : FlagChange) : Cursor :=
  { cursor with spaced := change.apply .spaced cursor.spaced }

/-- A repetition may be marked as one that prefers little. -/
def dropLazyMark : List Char → List Char
  | '?' :: rest => rest
  | text => text

def isRepetition (c : Char) : Bool := c == '*' || c == '+' || c == '?'

def plainAtom : Char → Atom
  | '.' => .dot
  | '^' => .assertion .lineStart
  | '$' => .assertion .lineEnd
  | c => .literal { char := c }

def takeAtom (spaced : Bool) (fuel : Nat) : List Char → Option (Atom × List Char)
  | [] => none
  | '\\' :: rest => takeEscape spaced rest
  | '[' :: rest => (takeSet spaced fuel rest).map fun (set, rest) => (.set set, rest)
  | '\x7b' :: _ => none
  | c :: rest => some (plainAtom c, rest)

/-- The parts so far, the last one first, with the last one repeated. -/
def repeatLast : List Pattern → Option (List Pattern)
  | [] => none
  | last :: before => if last.isRepeatable then some (.repeated last :: before) else none

mutual

/-- The alternatives up to the end of the group or of the text; `done` holds those so far, the last one
first. -/
def takeBranches (done : List Pattern) : Nat → Cursor → Option (Pattern × Cursor)
  | 0, _ => none
  | fuel + 1, cursor =>
    match takeParts [] fuel cursor with
    | none => none
    | some (branch, cursor) =>
      match cursor.text with
      | '|' :: rest => takeBranches (branch :: done) fuel (cursor.at rest)
      | _ => some (.ofBranches (branch :: done).reverse, cursor)

def takeParts (done : List Pattern) : Nat → Cursor → Option (Pattern × Cursor)
  | 0, _ => none
  | fuel + 1, cursor =>
    let cursor := cursor.skipped
    match cursor.text with
    | [] => some (.ofParts done.reverse, cursor)
    | '|' :: _ => some (.ofParts done.reverse, cursor)
    | ')' :: _ => some (.ofParts done.reverse, cursor)
    | '(' :: rest =>
      match takeGroup fuel (cursor.at rest) with
      | some (part, cursor) => takeParts (part :: done) fuel cursor
      | none => none
    | c :: rest =>
      if isRepetition c then
        match repeatLast done with
        | some done => takeParts done fuel (cursor.at (dropLazyMark rest))
        | none => none
      else
        match takeAtom cursor.spaced fuel (c :: rest) with
        | some (a, rest) => takeParts (.atom a :: done) fuel (cursor.at rest)
        | none => none

def takeGroup : Nat → Cursor → Option (Pattern × Cursor)
  | 0, _ => none
  | fuel + 1, cursor =>
    match takeOpening cursor.skipped with
    | none => none
    | some (.flags change, inside) => some (.flags change, inside.change change)
    | some (.group change, inside) =>
      match takeBranches [] fuel (inside.change change) with
      | none => none
      | some (inner, after) =>
        match after.text with
        | ')' :: text => some (.group change inner, { after with text, spaced := cursor.spaced })
        | _ => none

end

def read? (text : List Char) : Option Pattern :=
  match takeBranches [] (4 * text.length + 4) { text } with
  | some (pattern, cursor) => if cursor.text.isEmpty then some pattern else none
  | none => none

end ArgCheck.Pattern
