import ArgCheck.Calendar.Basic
import ArgCheck.Decimal.Basic
import ArgCheck.Entity.Basic

set_option autoImplicit false

/-!
# Values

The values that callers supply as arguments and get back in canonical form. Maps and the attributes
of entities are entries under distinct keys; `WellFormed` says so at every level.
-/

namespace ArgCheck

inductive Value where
  | null
  | bool (b : Bool)
  | int (n : Int64)
  | float (x : Float)
  | decimal (d : Decimal)
  | string (s : String)
  | symbol (name : String)
  | date (d : Calendar.Date)
  | dateTime (t : Calendar.DateTime)
  | timestamp (t : Calendar.Timestamp)
  | array (items : List Value)
  | map (entries : List (String × Value))
  | entity (e : EntityOf Value)

abbrev Entity := EntityOf Value

abbrev Arguments := Entries String Value

namespace Value

instance : Inhabited Value := ⟨.null⟩

def isNull : Value → Bool
  | .null => true
  | _ => false

theorem isNull_iff (v : Value) : v.isNull = true ↔ v = .null := by
  cases v <;> simp [isNull]

def kind : Value → String
  | .null => "null"
  | .bool _ => "boolean"
  | .int _ => "integer"
  | .float _ => "float"
  | .decimal _ => "decimal"
  | .string _ => "string"
  | .symbol _ => "symbol"
  | .date _ => "date"
  | .dateTime _ => "date_time"
  | .timestamp _ => "timestamp"
  | .array _ => "array"
  | .map _ => "hash"
  | .entity _ => "entity"

def flagOfText? (s : String) : Option Bool :=
  if s = "true" ∨ s = "1" then some true
  else if s = "false" ∨ s = "0" then some false
  else none

def flag? : Value → Option Bool
  | .bool b => some b
  | .int n => if n = 1 then some true else if n = 0 then some false else none
  | .float x => if x == 1 then some true else if x == 0 then some false else none
  | .decimal d => if d.isOne then some true else if d.isZero then some false else none
  | .string s => flagOfText? s
  | _ => none

def entityId? : Value → Option EntityId
  | .int n => some (.int n)
  | .string s => some (.text s)
  | _ => none

mutual

def WellFormed : Value → Prop
  | .array items => WellFormedItems items
  | .map entries => (Entries.keys entries).Nodup ∧ WellFormedEntries entries
  | .entity ⟨_, _, attributes⟩ =>
    (Entries.keys attributes).Nodup ∧ WellFormedEntries attributes
  | _ => True

def WellFormedItems : List Value → Prop
  | [] => True
  | item :: rest => item.WellFormed ∧ WellFormedItems rest

def WellFormedEntries : List (String × Value) → Prop
  | [] => True
  | (_, value) :: rest => value.WellFormed ∧ WellFormedEntries rest

end

end Value

end ArgCheck
