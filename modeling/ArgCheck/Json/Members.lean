import ArgCheck.TextFormat

set_option autoImplicit false

/-!
# Members of records

A record with known fields is written as an object, in any order and with each field at most once, or
as an array of the fields in their order, which may stop early and, in some formats, go on. `members?`
reads both; what the fields may hold is decided elsewhere.
-/

namespace ArgCheck.Json

def hasDistinctKeys (members : List (String × Json)) : Bool := decide (Entries.keys members).Nodup

def members? (format : TextFormat) (fields : List String) : Json → Option (List (String × Json))
  | .object members =>
    if hasDistinctKeys members && members.all fun member => fields.contains member.1 then
      some members
    else none
  | .array items =>
    if format.overlooksItems || items.length ≤ fields.length then some (fields.zip items) else none
  | _ => none

/-- The field's value, where null means that there is none. -/
def member? (field : String) (members : List (String × Json)) : Option Json :=
  (Entries.lookup field members).filter fun json => !json.isNull

def asString? : Json → Option String
  | .string s => some s
  | _ => none

theorem sizeOf_lookup {field : String} {members : List (String × Json)} {json : Json}
    (h : Entries.lookup field members = some json) : sizeOf json < sizeOf members := by
  have := List.sizeOf_lt_of_mem (Entries.mem_of_lookup h)
  simp only [Prod.mk.sizeOf_spec] at this
  omega

theorem sizeOf_member {field : String} {members : List (String × Json)} {json : Json}
    (h : member? field members = some json) : sizeOf json < sizeOf members := by
  rw [member?, Option.filter_eq_some_iff] at h
  exact sizeOf_lookup h.1

mutual

/-- Numbers that JSON has not become null. -/
def finite : Json → Json
  | .float x => if x.isFinite then .float x else .null
  | .array items => .array (finiteItems items)
  | .object members => .object (finiteMembers members)
  | json => json

def finiteItems : List Json → List Json
  | [] => []
  | item :: rest => item.finite :: finiteItems rest

def finiteMembers : List (String × Json) → List (String × Json)
  | [] => []
  | (key, value) :: rest => (key, value.finite) :: finiteMembers rest

end

/-- What a reader of JSON keeps of a value: repeated keys merged, and only numbers of JSON. -/
def canonical (json : Json) : Json := json.merged.finite

end ArgCheck.Json
