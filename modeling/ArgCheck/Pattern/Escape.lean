import ArgCheck.Pattern.Basic
import ArgCheck.Text.Blank
import ArgCheck.Text.CodePoint

set_option autoImplicit false

/-!
# Blanks and escapes of patterns

In a spaced pattern blanks do not count, nor does what follows a number sign on its line. After a
backslash a character that could have a meaning stands for itself, and some letters stand for other
characters, for sets of characters or for assertions.
-/

namespace ArgCheck.Pattern

/-- What follows blanks and comments; `inComment` tells whether the text begins inside a comment. -/
def skipNotes (inComment : Bool) : List Char → List Char
  | [] => []
  | c :: rest =>
    if inComment then skipNotes (c ≠ '\n') rest
    else if Text.isBlank c then skipNotes false rest
    else if c = '#' then skipNotes true rest
    else c :: rest

def skip (spaced : Bool) (text : List Char) : List Char :=
  if spaced then skipNotes false text else text

/-- The next character that counts. Of a comment only its sign and the blanks after it are passed
over, and at the end of the text blanks count again. -/
def glance (spaced : Bool) (text : List Char) : Option Char :=
  if spaced then
    let ahead := match Text.skipBlanks text with
      | '#' :: rest => Text.skipBlanks rest
      | rest => rest
    ahead.head?.or text.head?
  else text.head?

def takeHex (spaced : Bool) (number : Nat) : Nat → List Char → Option (Nat × List Char)
  | 0, text => some (number, text)
  | width + 1, text =>
    match skip spaced text with
    | [] => none
    | c :: rest => do
      let digit ← Text.hexValue? c
      takeHex spaced (16 * number + digit) width rest

def takeNumbered (spaced : Bool) (width : Nat) (text : List Char) :
    Option (Atom × List Char) := do
  let (number, rest) ← takeHex spaced 0 width text
  let char ← Text.charOf? number
  some (.literal { char, isByte := width = 2 }, rest)

/-- A character that is no letter or digit stands for itself, but for the angle brackets. -/
def isSelfEscaped (c : Char) : Bool :=
  c.toNat < 128 && !c.isAlphanum && c ≠ '<' && c ≠ '>'

def special? : Char → Option Atom
  | 'a' => some (.literal { char := '\x07' })
  | 'f' => some (.literal { char := '\x0c' })
  | 't' => some (.literal { char := '\t' })
  | 'n' => some (.literal { char := '\n' })
  | 'r' => some (.literal { char := '\r' })
  | 'v' => some (.literal { char := '\x0b' })
  | 'A' => some (.assertion .textStart)
  | 'z' => some (.assertion .textEnd)
  | 'b' => some (.assertion .wordBoundary)
  | 'B' => some (.assertion .notWordBoundary)
  | '<' => some (.assertion .wordStart)
  | '>' => some (.assertion .wordEnd)
  | 'd' => some (.set (.shorthand false))
  | 's' => some (.set (.shorthand false))
  | 'w' => some (.set (.shorthand false))
  | 'D' => some (.set (.shorthand true))
  | 'S' => some (.set (.shorthand true))
  | 'W' => some (.set (.shorthand true))
  | _ => none

def takeEscape (spaced : Bool) : List Char → Option (Atom × List Char)
  | [] => none
  | 'x' :: rest => takeNumbered spaced 2 rest
  | 'u' :: rest => takeNumbered spaced 4 rest
  | 'U' :: rest => takeNumbered spaced 8 rest
  | c :: rest =>
    if isSelfEscaped c then some (.literal { char := c }, rest)
    else (special? c).map fun special => (special, rest)

end ArgCheck.Pattern
