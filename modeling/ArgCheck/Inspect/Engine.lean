import ArgCheck.Engine
import ArgCheck.Inspect.Declaration
import ArgCheck.Inspect.Tables

set_option autoImplicit false

/-!
# Descriptions of engines

How engines, their parts and settings show what they hold.
-/

namespace ArgCheck.Inspect

def logFormat : LogFormat → String
  | .json => "Json"
  | .pretty => "Pretty"
  | .compact => "Compact"

def logSettings (settings : LogSettings) : String :=
  record "LoggingConfig" [
    ("enabled", bool settings.enabled),
    ("level", quoted settings.level),
    ("format", logFormat settings.format),
    ("span_events", bool settings.spanEvents),
    ("include_location", bool settings.includeLocation),
    ("include_target", bool settings.includeTarget)]

def definitions (table : Table String Definition) : String :=
  entries (table.entries.map fun entry => (quoted entry.1, definition entry.2))

def schemaDefinitions (schemas : SchemaDefinitions) : String :=
  entries (schemas.entries.map fun entry => (quoted entry.1, definitions entry.2))

def settings (s : Settings) : String :=
  record "SieveConfig" [
    ("logging", logSettings s.logging),
    ("registry", record "RegistryConfig" [("builtin_type_handlers", bool s.builtinHandlers)]),
    ("schemas", schemaDefinitions s.schemas)]

def engineParts (parts : EngineParts) : String :=
  openRecord "SieveBuilder" [
    ("config", settings parts.settings),
    ("has_entity_store", bool parts.store.isSome),
    ("code_schemas", nat parts.schemas.length)]

def engine (e : Engine) : String :=
  record "Sieve" [
    ("schemas", list (e.validator.schemaNames.map quoted)),
    ("type_registrations", nat e.validator.types.size)]

end ArgCheck.Inspect
