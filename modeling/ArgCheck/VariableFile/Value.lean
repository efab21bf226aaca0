import ArgCheck.Text.Alphanumeric

set_option autoImplicit false

/-!
# Values of a file of variables

A value is one word, parts of which may stand in quotes. Strong quotes keep everything as it is; in weak
quotes and outside of quotes a backslash escapes, and a dollar sign stands before the name of a variable
whose value takes its place. The name is made of letters and digits, or stands in braces. After the
word only blanks and a comment may follow.
-/

namespace ArgCheck.VariableFile

/-- Where in a value a reader is. In weak quotes, `quoted` holds; names have their last character
first. -/
inductive Position where
  | word (quoted : Bool)
  | escape (quoted : Bool)
  | strongQuote
  | name (quoted : Bool) (name : List Char)
  | braced (quoted : Bool) (name : List Char)
  | after
  deriving DecidableEq, Repr

def escaped? (c : Char) : Option Char :=
  if c = '\\' ∨ c = '\'' ∨ c = '\"' ∨ c = '$' ∨ c = ' ' then some c
  else if c = 'n' then some '\n'
  else none

def isGap (c : Char) : Bool := c == ' ' || c == '\t'

/-- What a character of a word adds to the value, and where the reader is then. -/
def nextInWord (quoted : Bool) (c : Char) : List Char × Position :=
  if c = '$' then ([], .name quoted [])
  else if c = '\\' then ([], .escape quoted)
  else if c = '\"' then ([], .word (!quoted))
  else if quoted then ([c], .word true)
  else if c = '\'' then ([], .strongQuote)
  else if isGap c then ([], .after)
  else ([c], .word false)

/-- The same for a name. The character that ends it is part of the value, whatever it is, unless it
starts another name. -/
def nextInName (valueOf : String → String) (quoted : Bool) (name : List Char) (c : Char) :
    List Char × Position :=
  let value := (valueOf (String.ofList name.reverse)).toList
  if Text.isAlphanumeric c then ([], .name quoted (c :: name))
  else if c = '\x7b' ∧ name = [] then ([], .braced quoted [])
  else if c = '$' then (value, .name quoted [])
  else (value ++ [c], .word quoted)

def Position.next? (valueOf : String → String) (c : Char) : Position → Option (List Char × Position)
  | .word quoted => some (nextInWord quoted c)
  | .escape quoted => (escaped? c).map fun c => ([c], .word quoted)
  | .strongQuote => some (if c = '\'' then ([], .word false) else ([c], .strongQuote))
  | .name quoted letters => some (nextInName valueOf quoted letters c)
  | .braced quoted letters =>
    some (if c = '\x7d' then ((valueOf (String.ofList letters.reverse)).toList, .word quoted)
      else ([], .braced quoted (c :: letters)))
  | .after => if isGap c then some ([], .after) else none

/-- What the end of the text adds to the value, unless quotes or braces are open. -/
def Position.finish? (valueOf : String → String) : Position → Option (List Char)
  | .word false => some []
  | .escape false => some []
  | .name false letters => some (valueOf (String.ofList letters.reverse)).toList
  | .after => some []
  | _ => none

/-- The value that a text spells; `done` holds what is known of it, the last character first. -/
def readValue (valueOf : String → String) (position : Position) (done : List Char) :
    List Char → Option String
  | [] => (position.finish? valueOf).map fun last => String.ofList (done.reverse ++ last)
  | c :: rest =>
    if position = .after ∧ c = '#' then some (String.ofList done.reverse)
    else
      match position.next? valueOf c with
      | some (added, next) => readValue valueOf next (added.reverse ++ done) rest
      | none => none

/-- A comment, like nothing, spells the empty value. -/
def value? (valueOf : String → String) : List Char → Option String
  | [] => some ""
  | '#' :: _ => some ""
  | text => readValue valueOf (.word false) [] text

end ArgCheck.VariableFile
