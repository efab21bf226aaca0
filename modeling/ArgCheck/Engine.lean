import ArgCheck.Settings.Check
import ArgCheck.Validator

set_option autoImplicit false

/-!
# Engines

An engine is a validator that is put together from settings and from parts given in code. The schemas
of the settings are converted and checked before anything else happens, and are registered before
those given in code. A call with refused arguments is reported by an event.
-/

namespace ArgCheck

inductive EngineError where
  | settings (error : SettingsError)
  | schema (error : ArgumentError)
  | logging (error : LogError)
  deriving DecidableEq, Repr

/-- What an engine is built from. A part that is not given is replaced by the usual one. -/
structure EngineParts where
  settings : Settings := {}
  store : Option EntityStore := none
  types : Option TypeTable := none
  filters : Option FilterTable := none
  schemas : List (String × Schema) := []

structure Engine where
  validator : Validator

namespace EngineParts

def filterTable (parts : EngineParts) : FilterTable :=
  (parts.filters.getD .standard).attach parts.store

def typeTable (parts : EngineParts) : Traced EngineError TypeTable :=
  let types := parts.types.getD .empty
  if parts.settings.builtinHandlers then types.registerBuiltins else pure types

/-- Registers schemas one after the other; `wrap` says whose error a refusal is. -/
def registerAll (wrap : String → ArgumentError → EngineError) (validator : Validator) :
    List (String × Schema) → Traced EngineError Validator
  | [] => pure validator
  | (name, schema) :: rest => do
    let validator ← (validator.registerSchema name schema).mapError (wrap name)
    registerAll wrap validator rest

def readyFields (parts : EngineParts) (validator : Validator) : List (String × String) :=
  [("schemas", Numeral.render validator.schemas.size),
    ("builtin_type_handlers", TypeTable.flag parts.settings.builtinHandlers)]

def build (parts : EngineParts) : Traced EngineError Engine := do
  let configured ← Traced.ofExcept (parts.settings.argumentSchemas.mapError .settings)
  let types ← parts.typeTable
  let validator : Validator := { types, filters := parts.filterTable }
  let validator ← registerAll (fun name error => .settings (.schema name error)) validator configured
  let validator ← registerAll (fun _ error => .schema error) validator parts.schemas
  Traced.emit .info "sieve engine ready" (parts.readyFields validator)
  pure ⟨validator⟩

end EngineParts

namespace Engine

def rejection (name : String) (error : ArgumentError) : Event :=
  ⟨.debug, "arguments rejected",
    [("schema", name), ("error_kind", error.kind.name), ("error", error.message)]⟩

def validate (engine : Engine) (name : String) (given : Value) : Traced ArgumentError Arguments :=
  (engine.validator.validateRegistered name given).onError (rejection name)

end Engine

end ArgCheck
