import ArgCheck.Inspect.Basic
import ArgCheck.QueryTable

set_option autoImplicit false

/-!
# Descriptions of tables

How the tables of types, filters, schemas and queries show what is in them.
-/

namespace ArgCheck.Inspect

def typeForms (forms : TypeForms) : String :=
  record "TypeRegistration" [
    ("validator", bool forms.validator.isSome),
    ("coercer", bool forms.coercer.isSome),
    ("handler", option quoted (forms.handler.map TypeHandler.name))]

def typeTable (table : TypeTable) : String :=
  record "TypeRegistry" [("type_count", nat table.size)]

def filterTable (table : FilterTable) : String :=
  record "FilterRegistry" [
    ("tags", list (table.tags.keys.map quoted)),
    ("type_id_count", nat table.ids.size),
    ("entity_store", bool table.store.isSome)]

def validator (v : Validator) : String :=
  record "ArgumentValidator" [
    ("types", typeTable v.types),
    ("filters", filterTable v.filters),
    ("schema_count", nat v.schemas.size)]

def query {σ ρ : Type} (q : Query σ ρ) : String :=
  openRecord "QueryDefinition" [
    ("name", quoted q.name),
    ("description", option quoted q.description),
    ("arg_count", option nat (q.schema.map Schema.size))]

def queryTable {σ ρ : Type} (table : QueryTable σ ρ) : String :=
  openRecord "QueryRegistry" [("queries", list (table.names.map quoted))]

end ArgCheck.Inspect
