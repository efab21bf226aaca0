import ArgCheck.Binary64.Printer
import ArgCheck.Calendar.Printer
import ArgCheck.DeclaredType
import ArgCheck.Text.Quoted

set_option autoImplicit false

/-!
# Descriptions for people who look inside

Texts that show how a value is built: a constructor with its arguments in parentheses, or a record
with its fields in braces. An open record has fields that are not shown.
-/

namespace ArgCheck.Inspect

def commaSeparated (texts : List String) : String := ", ".intercalate texts

def call (name : String) (arguments : List String) : String :=
  name ++ "(" ++ commaSeparated arguments ++ ")"

def list (texts : List String) : String := "[" ++ commaSeparated texts ++ "]"

def entries (pairs : List (String × String)) : String :=
  "\x7b" ++ commaSeparated (pairs.map fun pair => pair.1 ++ ": " ++ pair.2) ++ "\x7d"

def fields (pairs : List (String × String)) : String :=
  commaSeparated (pairs.map fun pair => pair.1 ++ ": " ++ pair.2)

def record (name : String) (pairs : List (String × String)) : String :=
  name ++ " \x7b " ++ fields pairs ++ " \x7d"

def openRecord (name : String) (pairs : List (String × String)) : String :=
  name ++ " \x7b " ++ fields pairs ++ ", .. \x7d"

def option {α : Type} (render : α → String) : Option α → String
  | none => "None"
  | some a => call "Some" [render a]

def bool (b : Bool) : String := if b then "true" else "false"

def nat (n : Nat) : String := Numeral.render n

def quoted (s : String) : String := Text.Quoted.encode s

def entityClass (c : EntityClass) : String := call "EntityClass" [quoted c.name]

def entityId : EntityId → String
  | .int n => call "Int" [Numeral.render n.toInt]
  | .text s => call "Str" [quoted s]

def classRef : ClassRef → String
  | .handle c => call "Class" [entityClass c]
  | .name s => call "Name" [quoted s]

def typeId : TypeId → String
  | .builtin b => call "Builtin" [b.name]
  | .entity c => call "Entity" [entityClass c]

def declaredType : DeclaredType → String
  | .tag name => call "Tag" [quoted name]
  | .id t => call "Id" [typeId t]

def floatStyle : Binary64.Style := ⟨-4, 16, false, .up⟩

def float (x : Float) : String :=
  String.ofList (if x.isFinite then Binary64.styled floatStyle x else Binary64.plain x)

mutual

def value : Value → String
  | .null => "Null"
  | .bool b => call "Bool" [bool b]
  | .int n => call "Integer" [Numeral.render n.toInt]
  | .float x => call "Float" [float x]
  | .decimal d => call "Decimal" [d.render]
  | .string s => call "String" [quoted s]
  | .symbol name => call "Symbol" [call "Symbol" [quoted name]]
  | .date d => call "Date" [String.ofList d.text]
  | .dateTime t => call "DateTime" [String.ofList t.text]
  | .timestamp t => call "Timestamp" [String.ofList t.exactText]
  | .array items => call "Array" [list (values items)]
  | .map pairs => call "Map" [entries (valueEntries pairs)]
  | .entity ⟨cls, id, attributes⟩ =>
    call "Entity" [record "Entity" [("class", entityClass cls), ("id", entityId id),
      ("attributes", entries (valueEntries attributes))]]

def values : List Value → List String
  | [] => []
  | item :: rest => value item :: values rest

def valueEntries : List (String × Value) → List (String × String)
  | [] => []
  | (key, item) :: rest => (quoted key, value item) :: valueEntries rest

end

mutual

def json : Json → String
  | .null => "Null"
  | .bool b => call "Bool" [bool b]
  | .int n => call "Number" [Numeral.render n]
  | .float x => call "Number" [String.ofList (Json.floatText x)]
  | .string s => call "String" [quoted s]
  | .array items => "Array " ++ list (jsonItems items)
  | .object members => "Object " ++ entries (jsonMembers members)

def jsonItems : List Json → List String
  | [] => []
  | item :: rest => json item :: jsonItems rest

def jsonMembers : List (String × Json) → List (String × String)
  | [] => []
  | (key, item) :: rest => (quoted key, json item) :: jsonMembers rest

end

end ArgCheck.Inspect
