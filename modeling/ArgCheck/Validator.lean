import ArgCheck.Validation

set_option autoImplicit false

/-!
# Validators

A validator has a table of types, a table of filters and the schemas registered with it. A schema is
registered if no argument is optional with a default and every filter can be built; otherwise the
validator stays as it was. Registering under a name again replaces the schema.
-/

namespace ArgCheck

structure Validator where
  types : TypeTable
  filters : FilterTable
  schemas : Table String Schema := .empty

namespace Validator

def checkSchema (name : String) (schema : Schema) : Except ArgumentError Unit :=
  if schema.conflicts.isEmpty then .ok () else .error (.schemaDefinition name schema.conflicts)

def addSchema (validator : Validator) (name : String) (schema : Schema) : Validator :=
  { validator with schemas := validator.schemas.insert name schema }

def registrationEvents (validator : Validator) (name : String) (schema : Schema) : List Event :=
  (if validator.schemas.contains name then
    [⟨.warn, "replacing registered argument schema", [("schema", name)]⟩]
  else []) ++
  [⟨.debug, "registered argument schema",
    [("schema", name), ("arguments", Numeral.render schema.size)]⟩]

def registerSchema (validator : Validator) (name : String) (schema : Schema) :
    Traced ArgumentError Validator := do
  Traced.ofExcept (checkSchema name schema)
  let _ ← Validation.buildSlots validator.filters schema.entries
  ⟨validator.registrationEvents name schema, .ok (validator.addSchema name schema)⟩

def schema? (validator : Validator) (name : String) : Option Schema := validator.schemas.get? name

def schemaNames (validator : Validator) : List String := validator.schemas.keys

def validate (validator : Validator) (name : String) (schema : Schema) (given : Value) :
    Traced ArgumentError Arguments :=
  Validation.validate validator.types validator.filters name schema given

def validateRegistered (validator : Validator) (name : String) (given : Value) :
    Traced ArgumentError Arguments :=
  match validator.schema? name with
  | some schema => validator.validate name schema given
  | none => .fail (.unknownSchema name)

end Validator

end ArgCheck
