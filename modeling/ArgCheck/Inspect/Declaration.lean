import ArgCheck.Definition.Basic
import ArgCheck.Filter.Record
import ArgCheck.Inspect.Basic

set_option autoImplicit false

/-!
# Descriptions of declarations

How options, arguments, record filters and definitions show what they hold.
-/

namespace ArgCheck.Inspect

def options : Options → String
  | ⟨declared, optional, default, description, element, itemValue, cls⟩ =>
    record "FilterOptions" [
      ("type_spec", declaredType declared),
      ("optional", bool optional),
      ("default", option value default),
      ("description", option quoted description),
      ("element", match element with
        | none => "None"
        | some inner => call "Some" [options inner]),
      ("value", match itemValue with
        | none => "None"
        | some inner => call "Some" [options inner]),
      ("class", option classRef cls)]

def argument (a : Argument) : String :=
  record "ArgSpec" [("options", options a.options), ("coerce", bool a.coercer.isSome)]

def filterBase (base : FilterBase) : String :=
  record "FilterBase" [("name", quoted base.name), ("options", options base.options)]

def recordFilter (filter : RecordFilter) : String :=
  record "RecordFilter" [("base", filterBase filter.base),
    ("class", option classRef filter.classRef?), ("store", bool filter.store.isSome)]

def definition (d : Definition) : String :=
  record "ArgDefinition" [
    ("type_spec", json d.declared),
    ("optional", bool d.optional),
    ("default", option json d.default),
    ("description", option quoted d.description),
    ("element_type", option json d.element),
    ("value_type", option json d.value),
    ("class", option quoted d.cls)]

end ArgCheck.Inspect
