import ArgCheck.Table

set_option autoImplicit false

/-!
# JSON values

Objects keep their members in order. A number is a whole number or a double; the reader makes whole
numbers only of those that fit in 64 bits. An object that was just read may repeat a key; `merged`
keeps, at every level, the last value of a repeated key in the place of the first.
-/

namespace ArgCheck

inductive Json where
  | null
  | bool (b : Bool)
  | int (n : Int)
  | float (x : Float)
  | string (s : String)
  | array (items : List Json)
  | object (members : List (String × Json))

namespace Json

instance : Inhabited Json := ⟨.null⟩

mutual

def merged : Json → Json
  | .array items => .array (mergedItems items)
  | .object members => .object (Entries.ofList (mergedMembers members))
  | json => json

def mergedItems : List Json → List Json
  | [] => []
  | item :: rest => item.merged :: mergedItems rest

def mergedMembers : List (String × Json) → List (String × Json)
  | [] => []
  | (key, value) :: rest => (key, value.merged) :: mergedMembers rest

end

def isNull : Json → Bool
  | .null => true
  | _ => false

end Json

end ArgCheck
