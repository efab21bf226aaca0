import ArgCheck.Binary64.Reader
import ArgCheck.Builtin
import ArgCheck.Calendar.Reader
import ArgCheck.Decimal.Binary
import ArgCheck.Value.Printer

set_option autoImplicit false

/-!
# Canonical values of builtin types

Which values are canonical for a builtin type when an argument is filtered, and how others are cast.
This differs from membership in the type: an integer may stand for a float, and a date-time is not
taken for a date but cut down to one.
-/

namespace ArgCheck.Builtin

def accepts : Builtin → Value → Bool
  | .string, .string _ => true
  | .integer, .int _ => true
  | .float, .float _ => true
  | .float, .int _ => true
  | .decimal, .decimal _ => true
  | .boolean, .bool _ => true
  | .symbol, .symbol _ => true
  | .date, .date _ => true
  | .dateTime, .dateTime _ => true
  | .dateTime, .timestamp _ => true
  | .array, .array _ => true
  | .hash, .map _ => true
  | _, _ => false

def trimmed (s : String) : List Char := Text.trim s.toList

def castString : Value → String
  | .symbol name => name
  | value => value.text

/-- The fraction of a number is cut off. -/
def castInteger? : Value → Option Int64
  | .string s => Numeral.separatedInt64? (trimmed s)
  | .float x => if x.isFinite then Numeral.toInt64? (Binary64.truncate x) else none
  | .decimal d => Numeral.toInt64? d.truncate
  | _ => none

def castFloat? : Value → Option Float
  | .string s => Binary64.read? (trimmed s)
  | .decimal d => some d.toFloat |>.filter Float.isFinite
  | _ => none

def castDecimal? : Value → Option Decimal
  | .int n => some (.ofInt64 n)
  | .float x => Decimal.ofFloat? x
  | .string s => Decimal.read? (trimmed s)
  | _ => none

def castSymbol? : Value → Option String
  | .string s => some s
  | _ => none

def castDate? : Value → Option Calendar.Date
  | .string s => Calendar.date? s.toList
  | .dateTime t => some t.date
  | .timestamp t => some t.wall.date
  | _ => none

def ofMoment : Calendar.Moment → Value
  | .dateTime t => .dateTime t
  | .timestamp t => .timestamp t

/-- A date becomes its midnight. -/
def castDateTime? : Value → Option Value
  | .string s => (Calendar.moment? s.toList).map ofMoment
  | .date d => some (.dateTime ⟨d, .midnight⟩)
  | _ => none

def cast? : Builtin → Value → Option Value
  | .string, value => some (.string (castString value))
  | .integer, value => (castInteger? value).map .int
  | .float, value => (castFloat? value).map .float
  | .decimal, value => (castDecimal? value).map .decimal
  | .boolean, value => value.flag?.map .bool
  | .symbol, value => (castSymbol? value).map .symbol
  | .date, value => (castDate? value).map .date
  | .dateTime, value => castDateTime? value
  | .array, _ => none
  | .hash, _ => none

end ArgCheck.Builtin
