import ArgCheck.FilterTable.Basic
import ArgCheck.Schema
import ArgCheck.TypeTable.Basic

set_option autoImplicit false

/-!
# Validation of arguments

The way from the arguments that a caller gives to the canonical arguments of a schema: the filters of
all arguments are built, defaults are filled in, no required argument may be missing and no unknown
one present, and then each argument is normalized, in the order of the schema. The result has every
argument of the schema; those that were left out are null.
-/

namespace ArgCheck.Validation

structure Slot where
  name : String
  argument : Argument
  filter : Filter

def buildSlots (filters : FilterTable) :
    List (String × Argument) → Traced ArgumentError (List Slot)
  | [] => pure []
  | (name, argument) :: rest => do
    let filter ← filters.build name argument.options
    let rest ← buildSlots filters rest
    pure (⟨name, argument, filter⟩ :: rest)

/-- An argument that was left out gets its default, unless it may be left out. -/
def addDefault (given : Arguments) (entry : String × Argument) : Arguments :=
  if entry.2.isOptional || given.contains entry.1 then given
  else
    match entry.2.default? with
    | some default => given.insert entry.1 default
    | none => given

def withDefaults (schema : Schema) (given : Arguments) : Arguments :=
  schema.entries.foldl addDefault given

def missing (schema : Schema) (given : Arguments) : List String :=
  schema.namesWhere fun name argument => !argument.isOptional && !given.contains name

def unknown (schema : Schema) (given : Arguments) : List String :=
  given.keys.filter fun name => !schema.contains name

def checkNames (name : String) (schema : Schema) (given : Arguments) : Except ArgumentError Unit :=
  if !(missing schema given).isEmpty then .error (.missingArguments name (missing schema given))
  else if !(unknown schema given).isEmpty then
    .error (.unknownArguments name (unknown schema given))
  else .ok ()

/-- The type whose registered coercion normalizes the argument. -/
def coercedType? (types : TypeTable) (argument : Argument) : Option TypeId :=
  argument.declared.typeId?.filter types.hasCoercer

def coerceChecked (types : TypeTable) (t : TypeId) (name : String) (value : Value) :
    Except ArgumentError Value :=
  let coerced := types.coerce t value
  if types.valid t coerced then .ok coerced else .error (.argumentType name t.name)

/-- Null stays. Any other value goes through exactly one of the argument's own coercion, the coercion
of its type, and its filter. -/
def normalize (types : TypeTable) (slot : Slot) (value : Value) : Traced ArgumentError Value :=
  if value.isNull then pure value
  else
    match slot.argument.coercer, coercedType? types slot.argument with
    | some coerce, _ => do
      Traced.emit .trace "applying argument coercion" [("argument", slot.name)]
      pure (coerce value)
    | none, some t => do
      Traced.emit .trace "applying registered coercion"
        [("argument", slot.name), ("type_id", t.name)]
      Traced.ofExcept (coerceChecked types t slot.name value)
    | none, none => do
      Traced.emit .trace "processing argument"
        [("argument", slot.name), ("filter", slot.filter.typeName)]
      slot.filter.process value

/-- Each argument takes its value out of what is left of the arguments given. -/
def normalizeSlots (types : TypeTable) : Arguments → List Slot → Traced ArgumentError Arguments
  | _, [] => pure []
  | given, slot :: rest => do
    let value ← normalize types slot ((given.lookup slot.name).getD .null)
    let rest ← normalizeSlots types (given.swapRemove slot.name) rest
    pure ((slot.name, value) :: rest)

def validateEntries (types : TypeTable) (filters : FilterTable) (name : String) (schema : Schema)
    (given : Arguments) : Traced ArgumentError Arguments := do
  let slots ← buildSlots filters schema.entries
  let given := withDefaults schema given
  Traced.ofExcept (checkNames name schema given)
  let normalized ← normalizeSlots types given slots
  Traced.emit .trace "validated arguments"
    [("schema", name), ("arguments", Numeral.render normalized.length)]
  pure normalized

def validate (types : TypeTable) (filters : FilterTable) (name : String) (schema : Schema) :
    Value → Traced ArgumentError Arguments
  | .map given => validateEntries types filters name schema given
  | _ => .fail (.callShape name schema.names)

end ArgCheck.Validation
