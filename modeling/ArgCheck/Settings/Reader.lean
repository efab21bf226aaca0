import ArgCheck.Definition.Reader
import ArgCheck.Json.Reader
import ArgCheck.Settings.Basic
import ArgCheck.Toml.Reader

set_option autoImplicit false

/-!
# Reading settings

Settings are written in JSON or in TOML. Sections and fields may be left out, and there are no others
than the known ones.
-/

namespace ArgCheck

namespace TextFormat

def read? : TextFormat → String → Option Json
  | .toml, text => Toml.read? text
  | .json, text => Json.read? text

end TextFormat

namespace Settings

def flag? (default : Bool) : Option Json → Option Bool
  | none => some default
  | some (.bool b) => some b
  | some _ => none

def text? (default : String) : Option Json → Option String
  | none => some default
  | some (.string s) => some s
  | some _ => none

/-- A format by its name, or as an object with that name for its one key and nothing under it. -/
def format? (written : TextFormat) (default : LogFormat) : Option Json → Option LogFormat
  | none => some default
  | some (.string name) => LogFormat.ofName? name
  | some (.object [(name, content)]) =>
    if written.isNoContent content then LogFormat.ofName? name else none
  | some _ => none

def loggingFields : List String :=
  ["enabled", "level", "format", "span_events", "include_location", "include_target"]

def logging? (format : TextFormat) (json : Json) : Option LogSettings := do
  let members ← json.members? format loggingFields
  let initial : LogSettings := {}
  some {
    enabled := ← flag? initial.enabled (Entries.lookup "enabled" members)
    level := ← text? initial.level (Entries.lookup "level" members)
    format := ← format? format initial.format (Entries.lookup "format" members)
    spanEvents := ← flag? initial.spanEvents (Entries.lookup "span_events" members)
    includeLocation := ← flag? initial.includeLocation (Entries.lookup "include_location" members)
    includeTarget := ← flag? initial.includeTarget (Entries.lookup "include_target" members) }

def builtinHandlers? (format : TextFormat) (json : Json) : Option Bool := do
  let members ← json.members? format ["builtin_type_handlers"]
  flag? false (Entries.lookup "builtin_type_handlers" members)

/-- A repeated name keeps its first place and its last definitions. -/
def schemas? (format : TextFormat) : Json → Option SchemaDefinitions
  | .object members => do
    let schemas ← members.mapM fun member =>
      (Definition.readTable? format member.2).map fun definitions => (member.1, definitions)
    some (.ofList schemas)
  | _ => none

/-- A section that may be left out. -/
def part? {α : Type} (default : α) (read : Json → Option α) : Option Json → Option α
  | none => some default
  | some json => read json

def ofJson? (format : TextFormat) (json : Json) : Option Settings := do
  let members ← json.members? format ["logging", "registry", "schemas"]
  some {
    logging := ← part? {} (logging? format) (Entries.lookup "logging" members)
    builtinHandlers := ← part? false (builtinHandlers? format) (Entries.lookup "registry" members)
    schemas := ← part? .empty (schemas? format) (Entries.lookup "schemas" members) }

end Settings

end ArgCheck
