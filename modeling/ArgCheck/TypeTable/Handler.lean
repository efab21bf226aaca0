import ArgCheck.Binary64.Reader
import ArgCheck.Builtin
import ArgCheck.Decimal.Binary
import ArgCheck.Value.Printer

set_option autoImplicit false

/-!
# Type handlers

A handler says which values are valid for a type and turns others into valid ones where it can. The
four builtin handlers are lenient: a value that they cannot turn into a valid one comes back
unchanged.
-/

namespace ArgCheck

structure TypeHandler where
  name : String
  valid : Value → Bool
  coerce : Value → Value := id

namespace TypeHandler

def coerceString : Value → Value
  | .string s => .string s
  | .symbol name => .string name
  | value => .string value.text

def coerceInteger : Value → Value
  | .string s =>
    match Numeral.int64? (Text.trim s.toList) with
    | some n => .int n
    | none => .string s
  | value => value

def coerceFloat : Value → Value
  | .int n => .float (Binary64.ofInt n.toInt)
  | .decimal d => .float d.toFloat
  | .string s =>
    match Binary64.read? (Text.trim s.toList) with
    | some x => .float x
    | none => .string s
  | value => value

def coerceBoolean (value : Value) : Value :=
  match value.flag? with
  | some b => .bool b
  | none => value

def string : TypeHandler := ⟨"String", Builtin.string.isInstance, coerceString⟩

def integer : TypeHandler := ⟨"Integer", Builtin.integer.isInstance, coerceInteger⟩

def float : TypeHandler := ⟨"Float", Builtin.float.isInstance, coerceFloat⟩

def boolean : TypeHandler := ⟨"Boolean", Builtin.boolean.isInstance, coerceBoolean⟩

def builtins : List (Builtin × TypeHandler) :=
  [(.string, string), (.integer, integer), (.float, float), (.boolean, boolean)]

end TypeHandler

end ArgCheck
