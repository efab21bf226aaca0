import ArgCheck.Pattern.Reader

set_option autoImplicit false

/-!
# Usable patterns

A pattern is usable if it nests at most 250 deep and every atom is allowed where it stands. No tables of
characters are at hand, so in Unicode mode there are no shorthands, nothing is caseless, and no
assertion is about words; in byte mode nothing may match half of a character.
-/

namespace ArgCheck.Pattern

structure Mode where
  caseless : Bool := false
  unicode : Bool := true
  deriving DecidableEq, Repr

def Mode.change (mode : Mode) (change : FlagChange) : Mode where
  caseless := change.apply .caseless mode.caseless
  unicode := change.apply .unicode mode.unicode

mutual

/-- The atoms in their order, each with the mode where it stands, and the mode after them. -/
def atoms (mode : Mode) : Pattern → List (Mode × Atom) × Mode
  | .empty => ([], mode)
  | .flags change => ([], mode.change change)
  | .atom a => ([(mode, a)], mode)
  | .repeated inner => atoms mode inner
  | .group change inner => ((atoms (mode.change change) inner).1, mode)
  | .alternatives branches => atomsOfAll mode branches
  | .sequence parts => atomsOfAll mode parts

def atomsOfAll (mode : Mode) : List Pattern → List (Mode × Atom) × Mode
  | [] => ([], mode)
  | part :: rest =>
    let (first, mode) := atoms mode part
    let (others, mode) := atomsOfAll mode rest
    (first ++ others, mode)

end

def isAscii (l : Literal) : Bool := l.char.toNat < 128

mutual

/-- In byte mode sets hold ASCII characters, and so none is negated. -/
def allowsSet (mode : Mode) : CharSet → Bool
  | .empty => true
  | .literal l => if mode.unicode then !mode.caseless else isAscii l
  | .range first last =>
    if mode.unicode then !mode.caseless else isAscii first && isAscii last
  | .named negated _ => if mode.unicode then !mode.caseless else !negated
  | .shorthand negated => !mode.unicode && !negated
  | .bracketed negated inner => allowsSet mode inner && (mode.unicode || !negated)
  | .union items => allowsSets mode items
  | .operation _ left right => allowsSet mode left && allowsSet mode right

def allowsSets (mode : Mode) : List CharSet → Bool
  | [] => true
  | item :: rest => allowsSet mode item && allowsSets mode rest

end

def allows (mode : Mode) : Atom → Bool
  | .literal l => if mode.unicode then !mode.caseless else !l.isByte || isAscii l
  | .dot => mode.unicode
  | .assertion _ => true
  | .set s => allowsSet mode s

/-- Where words end cannot be told for all characters. -/
def asksForWords (mode : Mode) : Atom → Bool
  | .assertion a => mode.unicode && a.aboutWords
  | _ => false

inductive Fault where
  | unusable
  | unicodeWords
  deriving DecidableEq, Repr

def Fault.message : Fault → String
  | .unusable => "error building NFA"
  | .unicodeWords =>
    "unsupported regex feature for DFAs: cannot build DFAs for regexes with Unicode word " ++
      "boundaries; switch to ASCII word boundaries, or heuristically enable Unicode word " ++
      "boundaries or use a different regex engine"

def maxNesting : Nat := 250

def checkRead (pattern : Pattern) : Except Fault Unit :=
  let found := (atoms {} pattern).1
  if maxNesting < pattern.depth || !found.all fun entry => allows entry.1 entry.2 then
    .error .unusable
  else if found.any fun entry => asksForWords entry.1 entry.2 then .error .unicodeWords
  else .ok ()

def check (text : List Char) : Except Fault Unit :=
  match read? text with
  | some pattern => checkRead pattern
  | none => .error .unusable

end ArgCheck.Pattern
