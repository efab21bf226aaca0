import ArgCheck.Definition.Basic
import ArgCheck.Logging.Settings

set_option autoImplicit false

/-!
# Settings

What an engine is configured with: logging, whether the builtin type handlers are registered, and
argument schemas as definitions.
-/

namespace ArgCheck

abbrev SchemaDefinitions := Table String (Table String Definition)

structure Settings where
  logging : LogSettings := {}
  /-- The builtin type handlers are registered. -/
  builtinHandlers : Bool := false
  schemas : SchemaDefinitions := .empty

namespace Settings

def development : Settings := { logging := .development }

def production : Settings := { logging := .production }

def withSchema (settings : Settings) (name : String) (definitions : Table String Definition) :
    Settings :=
  { settings with schemas := settings.schemas.insert name definitions }

def loggingJson (logging : LogSettings) : Json :=
  .object [
    ("enabled", .bool logging.enabled),
    ("level", .string logging.level),
    ("format", .string logging.format.name),
    ("span_events", .bool logging.spanEvents),
    ("include_location", .bool logging.includeLocation),
    ("include_target", .bool logging.includeTarget)]

def toJson (settings : Settings) : Json :=
  .object [
    ("logging", loggingJson settings.logging),
    ("registry", .object [("builtin_type_handlers", .bool settings.builtinHandlers)]),
    ("schemas", .object (settings.schemas.entries.mapValues Definition.tableJson))]

end Settings

end ArgCheck
