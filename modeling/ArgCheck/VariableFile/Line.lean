import ArgCheck.Text.Blank

set_option autoImplicit false

/-!
# Lines of a file of variables

A line ends at a line feed, unless a quote or an escape is still open there; then the next line belongs
to it. After a blank outside of quotes a number sign starts a comment, which is left out. The lines end
early where the file is no text, or where its end leaves something open.
-/

namespace ArgCheck.VariableFile

/-- What is open after some characters of a line. -/
inductive Pending where
  | nothing
  /-- A blank, after which a comment may start. -/
  | blank
  | escape
  | weakQuote
  | weakEscape
  | strongQuote
  | strongEscape
  deriving DecidableEq, Repr

/-- What a character opens where nothing is open. -/
def opened (c : Char) : Pending :=
  if c = '\\' then .escape
  else if c = '\"' then .weakQuote
  else if c = '\'' then .strongQuote
  else .nothing

def isInnerBlank (c : Char) : Bool := Text.isBlank c && c ≠ '\n' && c ≠ '\r'

def Pending.next (c : Char) : Pending → Pending
  | .nothing => if isInnerBlank c then .blank else opened c
  | .blank => opened c
  | .escape => .nothing
  | .weakQuote => if c = '\\' then .weakEscape else if c = '\"' then .nothing else .weakQuote
  | .weakEscape => .weakQuote
  | .strongQuote =>
    if c = '\\' then .strongEscape else if c = '\'' then .nothing else .strongQuote
  | .strongEscape => .strongQuote

def scan (pending : Pending) (kept : List Char) : List Char → List Char × Option Pending
  | [] => (kept.reverse, some pending)
  | c :: rest =>
    if pending = .blank ∧ c = '#' then (kept.reverse, none)
    else scan (pending.next c) (c :: kept) rest

/-- A line of its own that is only a comment. -/
def isComment (line : List Char) : Bool := (Text.skipBlanks line).head? == some '#'

def dropLineEnd (line : List Char) : List Char :=
  match line.reverse with
  | '\n' :: '\r' :: rest => rest.reverse
  | '\n' :: rest => rest.reverse
  | _ => line

/-- Puts lines together where something is open at their end. In the place of a line that cannot be
read stands `none`, and nothing follows it. -/
def assemble (begun : List Char) (pending : Pending) :
    List (Option (List Char)) → List (Option (List Char))
  | [] => if pending = .nothing then [] else [none]
  | none :: _ => [none]
  | some line :: rest =>
    if isComment (begun ++ line) then assemble [] .nothing rest
    else
      match scan pending [] line with
      | (kept, none) => some (begun ++ kept) :: assemble [] .nothing rest
      | (_, some .nothing) => some (begun ++ dropLineEnd line) :: assemble [] .nothing rest
      | (_, some pending) => assemble (begun ++ line) pending rest

def byteLines (begun : List UInt8) : List UInt8 → List (List UInt8)
  | [] => if begun.isEmpty then [] else [begun.reverse]
  | byte :: rest =>
    if byte = 10 then (byte :: begun).reverse :: byteLines [] rest
    else byteLines (byte :: begun) rest

def text? (bytes : List UInt8) : Option (List Char) :=
  (String.fromUTF8? ⟨bytes.toArray⟩).map String.toList

/-- A byte order mark before the first line does not count. -/
def withoutMark : List (Option (List Char)) → List (Option (List Char))
  | some line :: rest => some (Text.dropMark line) :: rest
  | lines => lines

def lines (content : ByteArray) : List (Option (List Char)) :=
  assemble [] .nothing (withoutMark ((byteLines [] content.toList).map text?))

end ArgCheck.VariableFile
