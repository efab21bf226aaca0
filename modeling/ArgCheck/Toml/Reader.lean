import ArgCheck.Text.Blank
import ArgCheck.Toml.Document
import ArgCheck.Toml.Moment
import ArgCheck.Toml.Number
import ArgCheck.Toml.Text

set_option autoImplicit false

/-!
# Reading TOML

The text is read into headers and assignments, which make up the document; what is read is its JSON.
-/

namespace ArgCheck.Toml

def isBareKeyChar (c : Char) : Bool := c.isAlphanum || c == '_' || c == '-'

def takeKeyPart (text : List Char) : Option (String × List Char) :=
  match takeShortString text with
  | some parsed => some parsed
  | none =>
    match text.span isBareKeyChar with
    | ([], _) => none
    | (key, rest) => some (String.ofList key, rest)

/-- A dotted key of at most so many parts, with the blanks around them: the parts before the last, and
the last. -/
def takeKey : Nat → List Char → Option ((List String × String) × List Char)
  | 0, _ => none
  | parts + 1, text => do
    let (part, rest) ← takeKeyPart (skipBlanks text)
    match skipBlanks rest with
    | '.' :: rest =>
      let ((path, key), rest) ← takeKey parts rest
      some ((part :: path, key), rest)
    | rest => some (([], part), rest)

def maxDepth : Nat := 79

def takeDottedKey (text : List Char) : Option ((List String × String) × List Char) :=
  takeKey maxDepth text

mutual

/-- A value at the start of the text. `depth` bounds the nesting that is still allowed, and `fuel`
the length of the text. -/
def takeValue (depth : Nat) : Nat → List Char → Option (Json × List Char)
  | 0, _ => none
  | fuel + 1, text =>
    match text with
    | 't' :: 'r' :: 'u' :: 'e' :: rest => some (.bool true, rest)
    | 'f' :: 'a' :: 'l' :: 's' :: 'e' :: rest => some (.bool false, rest)
    | '\"' :: _ => (takeString text).map fun (s, rest) => (.string s, rest)
    | '\'' :: _ => (takeString text).map fun (s, rest) => (.string s, rest)
    | '[' :: rest =>
      match depth with
      | 0 => none
      | depth + 1 => (takeItems depth fuel rest).map fun (items, rest) => (.array items, rest)
    | '\x7b' :: rest =>
      match depth with
      | 0 => none
      | depth + 1 =>
        match skipBlanks rest with
        | '\x7d' :: rest => some (.object [], rest)
        | rest => do
          let (assignments, rest) ← takeAssignments depth fuel rest
          let json ← inlineTable? assignments
          some (json, rest)
    | text => (takeMoment text).or (takeNumber text)

/-- The items of an array, up to and with the closing bracket; a comma may follow the last. -/
def takeItems (depth : Nat) : Nat → List Char → Option (List Json × List Char)
  | 0, _ => none
  | fuel + 1, text =>
    match skipSpace text with
    | ']' :: rest => some ([], rest)
    | text => do
      let (item, rest) ← takeValue depth fuel text
      match skipSpace rest with
      | ',' :: rest =>
        let (items, rest) ← takeItems depth fuel rest
        some (item :: items, rest)
      | ']' :: rest => some ([item], rest)
      | _ => none

def takeAssignments (depth : Nat) : Nat → List Char → Option (List Assignment × List Char)
  | 0, _ => none
  | fuel + 1, text => do
    let ((path, key), rest) ← takeDottedKey text
    match rest with
    | '=' :: rest =>
      let (value, rest) ← takeValue depth fuel (skipBlanks rest)
      match skipBlanks rest with
      | ',' :: rest =>
        let (assignments, rest) ← takeAssignments depth fuel rest
        some (⟨path, key, value⟩ :: assignments, rest)
      | '\x7d' :: rest => some ([⟨path, key, value⟩], rest)
      | _ => none
    | _ => none

end

def takeAssignment (fuel : Nat) (text : List Char) : Option (Assignment × List Char) := do
  let ((path, key), rest) ← takeDottedKey text
  match rest with
  | '=' :: rest =>
    let (value, rest) ← takeValue maxDepth fuel (skipBlanks rest)
    some (⟨path, key, value⟩, rest)
  | _ => none

def takeHeader : List Char → Option (Header × List Char)
  | '[' :: rest => do
    let ((path, key), rest) ← takeDottedKey rest
    match rest with
    | ']' :: ']' :: rest => some (.item path key, rest)
    | _ => none
  | text => do
    let ((path, key), rest) ← takeDottedKey text
    match rest with
    | ']' :: rest => some (.table path key, rest)
    | _ => none

/-- The lines up to the end of the text: the assignments before the next header, and the sections
from there on. `fuel` bounds the length of the text. -/
def takeLines : Nat → List Char → Option (List Assignment × List Section)
  | 0, _ => none
  | fuel + 1, text =>
    match skipSpace text with
    | [] => some ([], [])
    | '#' :: rest => if (rest.dropWhile isPlain).isEmpty then some ([], []) else none
    | '[' :: rest => do
      let (header, rest) ← takeHeader rest
      let rest ← finishLine rest
      let (assignments, sections) ← takeLines fuel rest
      some ([], ⟨header, assignments⟩ :: sections)
    | text => do
      let (assignment, rest) ← takeAssignment (2 * fuel + 2) text
      let rest ← finishLine rest
      let (assignments, sections) ← takeLines fuel rest
      some (assignment :: assignments, sections)

def read? (text : String) : Option Json := do
  let chars := Text.dropMark text.toList
  let (assignments, sections) ← takeLines (chars.length + 1) chars
  let nodes ← document? assignments sections
  some (.object (nodesJson nodes))

end ArgCheck.Toml
