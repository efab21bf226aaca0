import ArgCheck.Settings.Environment
import ArgCheck.VariableFile.Line
import ArgCheck.VariableFile.Value

set_option autoImplicit false

/-!
# Files of variables

Every line of a file of variables sets one variable, except for blank lines and comments. A variable
that is set already keeps its value, and the first line that is wrong ends the file. Values may name
variables that are set by then; any other stands for nothing.
-/

namespace ArgCheck.VariableFile

def isNameStart (c : Char) : Bool := c.isAlpha || c == '_'

def isNameChar (c : Char) : Bool := c.isAlphanum || c == '_' || c == '.'

def takeName (text : List Char) : Option (String × List Char) :=
  match text.span isNameChar with
  | ([], _) => none
  | (c :: name, rest) =>
    if isNameStart c then some (String.ofList (c :: name), Text.skipBlanks rest) else none

def takeEquals : List Char → Option (List Char)
  | '=' :: rest => some (Text.skipBlanks rest)
  | _ => none

def exportWord : String := "export"

def assignment? (line : List Char) : Option (String × List Char) := do
  let (name, rest) ← takeName line
  match takeEquals rest with
  | some text => some (name, text)
  | none =>
    if name = exportWord then
      let (name, rest) ← takeName rest
      (takeEquals rest).map fun text => (name, text)
    else none

/-- The environment after one line, if the line is right. -/
def addLine? (environment : Environment) (line : List Char) : Option Environment :=
  match Text.trim line with
  | [] => some environment
  | '#' :: _ => some environment
  | line => do
    let (name, text) ← assignment? line
    let value ← value? (fun name => (environment.get? name).getD "") text
    some (environment.addMissing name value)

def addLines (environment : Environment) : List (Option (List Char)) → Environment
  | some line :: rest =>
    match addLine? environment line with
    | some environment => addLines environment rest
    | none => environment
  | _ => environment

end ArgCheck.VariableFile

namespace ArgCheck.Environment

def addFile (environment : Environment) (content : ByteArray) : Environment :=
  VariableFile.addLines environment (VariableFile.lines content)

end ArgCheck.Environment
