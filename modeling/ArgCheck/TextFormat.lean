import ArgCheck.Json.Basic

set_option autoImplicit false

/-!
# Formats of text

Settings and their definitions are written in JSON or in TOML. What is read is JSON in both cases, but
the formats differ in two rules: whether a record that is written as an array may go on after its last
field, and what stands under a choice that has no content.
-/

namespace ArgCheck

inductive TextFormat where
  | toml
  | json
  deriving DecidableEq, Repr

namespace TextFormat

def name : TextFormat → String
  | .toml => "toml"
  | .json => "json"

/-- Names are the same in capitals and small letters. -/
def ofName? (name : String) : Option TextFormat :=
  if name.toLower = toml.name then some .toml
  else if name.toLower = json.name then some .json
  else none

/-- Items after the last field of a record are overlooked. -/
def overlooksItems (format : TextFormat) : Bool := format = .toml

def isNoContent : TextFormat → Json → Bool
  | .toml, .object members => members.isEmpty
  | .toml, .array items => items.isEmpty
  | .toml, _ => false
  | .json, content => content.isNull

end TextFormat

end ArgCheck
