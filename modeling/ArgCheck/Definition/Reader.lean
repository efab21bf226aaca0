import ArgCheck.Definition.Basic
import ArgCheck.Json.Printer

set_option autoImplicit false

/-!
# Reading definitions

`read?` reads a definition from JSON as it was written, with its JSON values in canonical form. Faults
are those of single fields: a field that there is not, or a value of the wrong kind.
-/

namespace ArgCheck.Definition

inductive Fault where
  | unknownField (name : String)
  | wrongKind (found : Json) (expected : String)

def codeQuoted (text : String) : String := "`" ++ text ++ "`"

def summary : Json → String
  | .null => "null"
  | .bool b => "boolean " ++ codeQuoted (if b then "true" else "false")
  | .int n => "integer " ++ codeQuoted (Numeral.render n)
  | .float x => "floating point " ++ codeQuoted (String.ofList (Json.floatText x))
  | .string s => "string " ++ Text.Quoted.encode s
  | .array _ => "sequence"
  | .object _ => "map"

def Fault.message : Fault → String
  | .unknownField name =>
    "unknown field " ++ codeQuoted name ++ ", expected one of " ++
      ", ".intercalate (fields.map codeQuoted)
  | .wrongKind found expected => "invalid type: " ++ summary found ++ ", expected " ++ expected

def isFlag : Json → Bool
  | .bool _ => true
  | _ => false

def isTextOrNull : Json → Bool
  | .string _ => true
  | .null => true
  | _ => false

def fieldFault? (member : String × Json) : Option Fault :=
  if !fields.contains member.1 then some (.unknownField member.1)
  else if member.1 = "optional" then
    if isFlag member.2 then none else some (.wrongKind member.2 "a boolean")
  else if member.1 = "description" ∨ member.1 = "class" then
    if isTextOrNull member.2 then none else some (.wrongKind member.2 "a string")
  else none

def fault? (members : List (String × Json)) : Option Fault := members.findSome? fieldFault?

def ofMembers (declared : Json) (members : List (String × Json)) : Definition where
  declared
  optional := match Entries.lookup "optional" members with
    | some (.bool b) => b
    | _ => false
  default := Json.member? "default" members
  description := (Json.member? "description" members).bind Json.asString?
  element := Json.member? "element_type" members
  value := Json.member? "value_type" members
  cls := (Json.member? "class" members).bind Json.asString?

def canonical (definition : Definition) : Definition :=
  { definition with
    declared := definition.declared.canonical
    default := definition.default.map Json.canonical
    element := definition.element.map Json.canonical
    value := definition.value.map Json.canonical }

def read? (format : TextFormat) (json : Json) : Option Definition := do
  let members ← json.members? format fields
  let declared ← Entries.lookup "type" members
  if (fault? members).isNone then some (ofMembers declared members).canonical else none

/-- Definitions under the names of their arguments; a repeated name keeps its first place and its
last definition. -/
def readTable? (format : TextFormat) : Json → Option (Table String Definition)
  | .object members => do
    let definitions ← members.mapM fun member =>
      (read? format member.2).map fun definition => (member.1, definition)
    some (.ofList definitions)
  | _ => none

end ArgCheck.Definition
