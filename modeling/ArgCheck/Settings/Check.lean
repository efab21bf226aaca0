import ArgCheck.Definition.Options
import ArgCheck.Settings.Error
import ArgCheck.Validator

set_option autoImplicit false

/-!
# Checking settings

Settings are right if logging, where it is enabled, has a directive without a fault, and every schema
can be converted and has no argument that is optional with a default. The first wrong schema, in
order, is the error.
-/

namespace ArgCheck.Settings

def schemaOf (name : String) (definitions : Table String Definition) :
    Except ArgumentError Schema := do
  let schema ← Schema.ofDefinitions definitions
  Validator.checkSchema name schema
  pure schema

def schemasOf : List (String × Table String Definition) →
    Except SettingsError (List (String × Schema))
  | [] => pure []
  | (name, definitions) :: rest => do
    let schema ← (schemaOf name definitions).mapError (.schema name)
    let rest ← schemasOf rest
    pure ((name, schema) :: rest)

def argumentSchemas (settings : Settings) : Except SettingsError (List (String × Schema)) :=
  schemasOf settings.schemas.entries

def check (settings : Settings) : Except SettingsError Unit := do
  settings.logging.check.mapError .invalidLevel
  let _ ← settings.argumentSchemas
  pure ()

end ArgCheck.Settings
