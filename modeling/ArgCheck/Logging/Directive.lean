import ArgCheck.Binary64.Reader
import ArgCheck.Pattern.Check
import ArgCheck.Text.Bytes
import ArgCheck.Text.Fields

set_option autoImplicit false

/-!
# Log filter directives

A directive has parts between commas; empty parts do not count. A part names a target, or a span in
brackets, or both, and may end in an equals sign and a level. A span may have a field in braces, with a
value that is a number or a pattern. A lone word is a level or a target, so it is always right. Blanks
around a part are overlooked, but levels and fields are looked for where they would stand without them.
-/

namespace ArgCheck.Directive

inductive Fault where
  | malformed
  | badLevel
  | badField (fault : Pattern.Fault)
  deriving DecidableEq, Repr

def Fault.message : Fault → String
  | .malformed => "invalid filter directive"
  | .badLevel =>
    "error parsing level filter: expected one of \"off\", \"error\", \"warn\", \"info\", " ++
      "\"debug\", \"trace\", or a number 0-5"
  | .badField fault => "invalid field filter: " ++ fault.message

def startsPart (c : Char) : Bool :=
  c == '-' || c == ':' || c == '_' || Text.isAlphanumeric c

def levelNames : List String := ["off", "error", "warn", "info", "debug", "trace"]

def levelNumber? (text : List Char) : Option Nat :=
  (Numeral.word32? text).filter (· ≤ 5)

/-- A level may be left out after its equals sign. -/
def isLevel (text : List Char) : Bool :=
  text.isEmpty || levelNames.contains (String.ofList (text.map Char.toLower)) ||
    (levelNumber? text).isSome

def checkLevel (text : List Char) : Except Fault Unit :=
  if isLevel text then .ok () else .error .badLevel

def specialNumbers : List String := ["inf", "infinity", "nan"]

def isNumber (text : List Char) : Bool :=
  (Binary64.literal? text).isSome ||
    specialNumbers.contains (String.ofList ((Binary64.takeSign text).2.map Char.toLower))

def checkValue (value : List Char) : Except Fault Unit :=
  if isNumber value then .ok () else (Pattern.check value).mapError .badField

/-- A name alone, or a name and a value. What follows a second equals sign does not count. -/
def checkField (field : List Char) : Except Fault Unit :=
  match Text.fields '=' field with
  | _ :: value :: _ => checkValue value
  | _ => .ok ()

/-- A part as it is written, and without the blanks around it. -/
structure Part where
  written : List Char
  text : List Char

def Part.writtenFrom (part : Part) (rest : List Char) : List Char :=
  Text.dropBytes (Text.byteCount part.text - Text.byteCount rest) part.written

def afterSpan (part : Part) : List Char → Except Fault Unit
  | [] => .ok ()
  | '=' :: rest => checkLevel (part.writtenFrom rest)
  | _ => .error .malformed

def afterField (part : Part) : List Char → Except Fault Unit
  | ']' :: rest => afterSpan part rest
  | _ => .error .malformed

def field (part : Part) (text : List Char) : Except Fault Unit :=
  match text.span (· ≠ '\x7d') with
  | (c :: content, _ :: rest) => do
    checkField (Text.takeBytes (Text.byteCount (c :: content)) (part.writtenFrom text))
    afterField part rest
  | _ => .error .malformed

def span (part : Part) (text : List Char) : Except Fault Unit :=
  match text.dropWhile fun c => c ≠ ']' ∧ c ≠ '\x7b' with
  | ']' :: rest => afterSpan part rest
  | '\x7b' :: rest => field part rest
  | _ => .error .malformed

def target (part : Part) (text : List Char) : Except Fault Unit :=
  match text.dropWhile fun c => c ≠ '=' ∧ c ≠ '[' with
  | '=' :: rest => checkLevel (part.writtenFrom rest)
  | '[' :: rest => span part rest
  | _ => .ok ()

def checkPart (part : Part) : Except Fault Unit :=
  match part.text with
  | [] => .error .malformed
  | '[' :: rest => span part rest
  | c :: rest => if startsPart c then target part rest else .error .malformed

def checkParts : List (List Char) → Except Fault Unit
  | [] => .ok ()
  | part :: parts => do
    checkPart ⟨part, Text.trim part⟩
    checkParts parts

def parts (directive : String) : List (List Char) :=
  (Text.fields ',' directive.toList).filter fun part => !part.isEmpty

def check (directive : String) : Except Fault Unit := checkParts (parts directive)

end ArgCheck.Directive
