import ArgCheck.Binary64.Basic
import ArgCheck.Calendar.Printer
import ArgCheck.Json.Basic
import ArgCheck.Value.Basic

set_option autoImplicit false

/-!
# Values and JSON

`toJson` writes a value as JSON: numbers that JSON has not, names, dates and times become text, and
an entity an object of its class, identifier and attributes. `ofJson` reads JSON as a value; a whole
number of more than 64 signed bits becomes a double.
-/

namespace ArgCheck.Value

def floatJson (x : Float) : Json := if x.isFinite then .float x else .null

mutual

def toJson : Value → Json
  | .null => .null
  | .bool b => .bool b
  | .int n => .int n.toInt
  | .float x => floatJson x
  | .decimal d => .string d.render
  | .string s => .string s
  | .symbol name => .string name
  | .date d => .string (String.ofList d.text)
  | .dateTime t => .string (String.ofList t.text)
  | .timestamp t => .string (String.ofList t.text)
  | .array items => .array (toJsonItems items)
  | .map entries => .object (toJsonEntries entries)
  | .entity ⟨cls, id, attributes⟩ =>
    .object [("class", .string cls.name), ("id", .string id.render),
      ("attributes", .object (toJsonEntries attributes))]

def toJsonItems : List Value → List Json
  | [] => []
  | item :: rest => item.toJson :: toJsonItems rest

def toJsonEntries : List (String × Value) → List (String × Json)
  | [] => []
  | (key, value) :: rest => (key, value.toJson) :: toJsonEntries rest

end

def ofWhole (n : Int) : Value :=
  match Numeral.toInt64? n with
  | some i => .int i
  | none => .float (Binary64.ofInt n)

mutual

def ofJson : Json → Value
  | .null => .null
  | .bool b => .bool b
  | .int n => ofWhole n
  | .float x => .float x
  | .string s => .string s
  | .array items => .array (ofJsonItems items)
  | .object members => .map (ofJsonMembers members)

def ofJsonItems : List Json → List Value
  | [] => []
  | item :: rest => ofJson item :: ofJsonItems rest

def ofJsonMembers : List (String × Json) → List (String × Value)
  | [] => []
  | (key, value) :: rest => (key, ofJson value) :: ofJsonMembers rest

end

end ArgCheck.Value
