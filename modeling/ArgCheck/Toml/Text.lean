import ArgCheck.Text.CodePoint

set_option autoImplicit false

/-!
# Blanks, comments and strings of TOML

Lines end in a line feed, with or without a carriage return before it; inside a string of several
lines both become a line feed. A basic string has escapes, a literal string has none.
-/

namespace ArgCheck.Toml

def isBlank (c : Char) : Bool := c == ' ' || c == '\t'

def skipBlanks (text : List Char) : List Char := text.dropWhile isBlank

def isPlain (c : Char) : Bool := c == '\t' || 0x20 ≤ c.toNat && c.toNat ≠ 0x7F

def skipComment : List Char → List Char
  | '#' :: rest => rest.dropWhile isPlain
  | text => text

/-- The end of a line: what follows it, or the end of the text. -/
def endLine : List Char → Option (List Char)
  | [] => some []
  | '\n' :: rest => some rest
  | '\r' :: '\n' :: rest => some rest
  | _ => none

def finishLine (text : List Char) : Option (List Char) :=
  endLine (skipComment (skipBlanks text))

/-- What follows blanks, comments and line ends; `comment` is the comment that the text is in, from its
sign on. A comment is not passed over unless a line end follows it. -/
def skipSpaceFrom (comment : Option (List Char)) : List Char → List Char
  | [] => comment.getD []
  | '\n' :: rest => skipSpaceFrom none rest
  | '\r' :: '\n' :: rest => skipSpaceFrom none rest
  | c :: rest =>
    match comment with
    | some start => if isPlain c then skipSpaceFrom comment rest else start
    | none =>
      if isBlank c then skipSpaceFrom none rest
      else if c = '#' then skipSpaceFrom (some (c :: rest)) rest
      else c :: rest

def skipSpace (text : List Char) : List Char := skipSpaceFrom none text

def hexValue? (digits : List Char) : Option Nat :=
  digits.foldlM (fun n c => (Text.hexValue? c).map (16 * n + ·)) 0

def takeCodePoint (width : Nat) (text : List Char) : Option (Char × List Char) := do
  let digits := text.take width
  if digits.length = width then
    let c ← Text.charOf? (← hexValue? digits)
    some (c, text.drop width)
  else none

def shortEscape? : Char → Option Char
  | 'b' => some '\x08'
  | 't' => some '\t'
  | 'n' => some '\n'
  | 'f' => some '\x0c'
  | 'r' => some '\r'
  | '\"' => some '\"'
  | '\\' => some '\\'
  | _ => none

def takeEscape : List Char → Option (Char × List Char)
  | 'u' :: rest => takeCodePoint 4 rest
  | 'U' :: rest => takeCodePoint 8 rest
  | c :: rest => (shortEscape? c).map fun escaped => (escaped, rest)
  | [] => none

/-- The rest of a basic string on one line, and what follows its closing quote. -/
def basicRest : Nat → List Char → Option (List Char × List Char)
  | 0, _ => none
  | _, [] => none
  | _ + 1, '\"' :: rest => some ([], rest)
  | fuel + 1, '\\' :: rest => do
    let (c, rest) ← takeEscape rest
    let (tail, rest) ← basicRest fuel rest
    some (c :: tail, rest)
  | fuel + 1, c :: rest => do
    if isPlain c then
      let (tail, rest) ← basicRest fuel rest
      some (c :: tail, rest)
    else none

def literalRest (text : List Char) : Option (List Char × List Char) :=
  match text.span fun c => isPlain c && c ≠ '\'' with
  | (content, '\'' :: rest) => some (content, rest)
  | _ => none

/-- Up to two quotes may stand before the three that close a string. -/
def closing (quote : Char) (text : List Char) : Option (List Char × List Char) :=
  let quotes := (text.takeWhile (· = quote)).length
  if 3 ≤ quotes then
    let content := min (quotes - 3) 2
    some (List.replicate content quote, text.drop (content + 3))
  else none

def skipLineEnds : List Char → List Char
  | [] => []
  | '\r' :: '\n' :: rest => skipLineEnds rest
  | c :: rest => if isBlank c || c == '\n' then skipLineEnds rest else c :: rest

/-- A backslash at the end of a line: what follows the blanks and line ends after it. -/
def joinLines (text : List Char) : Option (List Char) :=
  match skipBlanks text with
  | '\n' :: rest => some (skipLineEnds rest)
  | '\r' :: '\n' :: rest => some (skipLineEnds rest)
  | _ => none

def linesRest (quote : Char) (escapes : Bool) : Nat → List Char → Option (List Char × List Char)
  | 0, _ => none
  | fuel + 1, text =>
    match closing quote text, text with
    | some closed, _ => some closed
    | none, [] => none
    | none, '\r' :: '\n' :: rest => do
      let (tail, rest) ← linesRest quote escapes fuel rest
      some ('\n' :: tail, rest)
    | none, c :: rest =>
      if c = '\\' ∧ escapes = true then
        match joinLines rest with
        | some rest => linesRest quote escapes fuel rest
        | none => do
          let (escaped, rest) ← takeEscape rest
          let (tail, rest) ← linesRest quote escapes fuel rest
          some (escaped :: tail, rest)
      else if isPlain c ∨ c = '\n' then do
        let (tail, rest) ← linesRest quote escapes fuel rest
        some (c :: tail, rest)
      else none

/-- The line end right after the opening quotes does not count. -/
def dropFirstLineEnd : List Char → List Char
  | '\n' :: rest => rest
  | '\r' :: '\n' :: rest => rest
  | text => text

def asString (parsed : Option (List Char × List Char)) : Option (String × List Char) :=
  parsed.map fun (content, rest) => (String.ofList content, rest)

def takeShortString : List Char → Option (String × List Char)
  | '\"' :: rest => asString (basicRest (rest.length + 1) rest)
  | '\'' :: rest => asString (literalRest rest)
  | _ => none

def takeString : List Char → Option (String × List Char)
  | '\"' :: '\"' :: '\"' :: rest =>
    asString (linesRest '\"' true (rest.length + 1) (dropFirstLineEnd rest))
  | '\'' :: '\'' :: '\'' :: rest =>
    asString (linesRest '\'' false (rest.length + 1) (dropFirstLineEnd rest))
  | text => takeShortString text

end ArgCheck.Toml
