import ArgCheck.Definition.Reader

set_option autoImplicit false

/-!
# What definitions declare

`toOptions` turns a definition into options. In the place of a container's item type an object with
the field `type` is a definition, whose first fault is an error; anything else is a declared type.
The declared type is read first, then the items' types.
-/

namespace ArgCheck.Definition

def assemble (definition : Definition) (declared : DeclaredType) (element value : Option Options) :
    Options where
  declared
  optional := definition.optional
  default := definition.default.map Value.ofJson
  description := definition.description
  element
  value
  cls := definition.cls.map .name

def nestedOptions (json : Json) : Except ArgumentError Options :=
  match json with
  | .object members =>
    match Entries.lookup "type" members with
    | none => (DeclaredType.ofJson (.object members)).map .ofType
    | some declared =>
      match fault? members with
      | some fault => .error (.invalidType fault.message)
      | none => do
        let declaredType ← DeclaredType.ofJson declared
        let element ← match _found : Json.member? "element_type" members with
          | none => pure none
          | some inner => some <$> nestedOptions inner
        let value ← match _found : Json.member? "value_type" members with
          | none => pure none
          | some inner => some <$> nestedOptions inner
        pure ((ofMembers declared members).assemble declaredType element value)
  | json => (DeclaredType.ofJson json).map .ofType
termination_by sizeOf json
decreasing_by
  all_goals
    have := Json.sizeOf_member ‹_›
    simp only [Json.object.sizeOf_spec]
    omega

def nestedOptions? : Option Json → Except ArgumentError (Option Options)
  | none => .ok none
  | some json => (nestedOptions json).map some

def toOptions (definition : Definition) : Except ArgumentError Options := do
  let declared ← DeclaredType.ofJson definition.declared
  let element ← nestedOptions? definition.element
  let value ← nestedOptions? definition.value
  pure (definition.assemble declared element value)

def toArgument (definition : Definition) : Except ArgumentError Argument :=
  definition.toOptions.map fun options => { options }

end ArgCheck.Definition

namespace ArgCheck.Schema

def argumentsOfDefinitions :
    List (String × Definition) → Except ArgumentError (List (String × Argument))
  | [] => pure []
  | (name, definition) :: rest => do
    let argument ← definition.toArgument
    let rest ← argumentsOfDefinitions rest
    pure ((name, argument) :: rest)

def ofDefinitions (definitions : Table String Definition) : Except ArgumentError Schema :=
  (argumentsOfDefinitions definitions.entries).map .ofList

end ArgCheck.Schema
