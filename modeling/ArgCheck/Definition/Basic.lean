import ArgCheck.Json.Members
import ArgCheck.Schema
import ArgCheck.Value.Json

set_option autoImplicit false

/-!
# Definitions

A definition is an argument as configuration writes it. Its types are still JSON: a tag, a class or,
for the items of a container, a whole definition. `toJson` writes only the fields that say something.
-/

namespace ArgCheck

structure Definition where
  declared : Json
  optional : Bool := false
  default : Option Json := none
  description : Option String := none
  element : Option Json := none
  value : Option Json := none
  cls : Option String := none

namespace Definition

def fields : List String :=
  ["type", "optional", "default", "description", "element_type", "value_type", "class"]

def ofType (declared : DeclaredType) : Definition := { declared := declared.toJson }

def field (name : String) : Option Json → List (String × Json)
  | some json => [(name, json)]
  | none => []

def toJson (definition : Definition) : Json :=
  .object (field "type" (some definition.declared) ++
    field "optional" (if definition.optional then some (.bool true) else none) ++
    field "default" definition.default ++
    field "description" (definition.description.map .string) ++
    field "element_type" definition.element ++
    field "value_type" definition.value ++
    field "class" (definition.cls.map .string))

/-- Options of items: the bare type where nothing more is said, else a definition. -/
def nestedJson : Options → Json
  | ⟨declared, optional, default, description, element, value, cls⟩ =>
    if Options.isBare ⟨declared, optional, default, description, element, value, cls⟩ then
      declared.toJson
    else
      toJson {
        declared := declared.toJson
        optional
        default := default.map Value.toJson
        description
        element := match element with
          | none => none
          | some inner => some (nestedJson inner)
        value := match value with
          | none => none
          | some inner => some (nestedJson inner)
        cls := cls.map ClassRef.className }

def ofOptions (options : Options) : Definition where
  declared := options.declared.toJson
  optional := options.optional
  default := options.default.map Value.toJson
  description := options.description
  element := options.element.map nestedJson
  value := options.value.map nestedJson
  cls := options.cls.map ClassRef.className

theorem nestedJson_eq (options : Options) :
    nestedJson options =
      if options.isBare then options.declared.toJson else (ofOptions options).toJson := by
  obtain ⟨declared, optional, default, description, element, value, cls⟩ := options
  cases element <;> cases value <;> rw [nestedJson] <;> rfl

end Definition

namespace Schema

def definitions (schema : Schema) : Table String Definition :=
  schema.arguments.mapValues fun argument => Definition.ofOptions argument.options

end Schema

def Definition.tableJson (definitions : Table String Definition) : Json :=
  .object (definitions.entries.mapValues toJson)

end ArgCheck
