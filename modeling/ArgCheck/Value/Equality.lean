import ArgCheck.Value.Basic

set_option autoImplicit false

/-!
# Equality of values

Decimals are equal as numbers and timestamps as instants, classes by name, and maps without regard
to the order of their entries. Doubles compare as numbers, so NaN differs from itself.
-/

namespace ArgCheck.Value

mutual

def equal : Value → Value → Bool
  | .null, .null => true
  | .bool a, .bool b => a == b
  | .int a, .int b => a == b
  | .float a, .float b => a == b
  | .decimal a, .decimal b => a.sameNumber b
  | .string a, .string b => a == b
  | .symbol a, .symbol b => a == b
  | .date a, .date b => a == b
  | .dateTime a, .dateTime b => a == b
  | .timestamp a, .timestamp b => a.sameInstant b
  | .array a, .array b => equalItems a b
  | .map a, .map b => a.length == b.length && covered a b
  | .entity ⟨c, i, a⟩, .entity ⟨d, j, b⟩ =>
    c.sameName d && i == j && (a.length == b.length && covered a b)
  | _, _ => false

def equalItems : List Value → List Value → Bool
  | [], [] => true
  | a :: as, b :: bs => equal a b && equalItems as bs
  | _, _ => false

/-- Every entry has one under the same key on the other side, with an equal value. -/
def covered : List (String × Value) → List (String × Value) → Bool
  | [], _ => true
  | (key, a) :: rest, other =>
    (match Entries.lookup key other with
      | some b => equal a b
      | none => false) && covered rest other

end

end ArgCheck.Value
