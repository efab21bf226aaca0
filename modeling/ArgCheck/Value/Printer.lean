import ArgCheck.Json.Printer
import ArgCheck.Value.Json

set_option autoImplicit false

/-!
# Text of values

The text in which a value reaches people and string arguments. Null has none; containers show their
JSON, and an entity its class and identifier.
-/

namespace ArgCheck.Value

def floatText (x : Float) : List Char :=
  if Binary64.isWhole x then Binary64.whole x else Binary64.plain x

def text : Value → String
  | .null => ""
  | .bool b => if b then "true" else "false"
  | .int n => Numeral.render n.toInt
  | .float x => String.ofList (floatText x)
  | .decimal d => d.render
  | .string s => s
  | .symbol name => name
  | .date d => String.ofList d.text
  | .dateTime t => String.ofList t.text
  | .timestamp t => String.ofList t.text
  | .array items => (Value.array items).toJson.render
  | .map entries => (Value.map entries).toJson.render
  | .entity e => e.label

end ArgCheck.Value
