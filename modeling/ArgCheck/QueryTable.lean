import ArgCheck.Definition.Basic
import ArgCheck.Validator

set_option autoImplicit false

/-!
# Queries

A query has a name of its own, perhaps a schema, and a body that runs on a scope and on canonical
arguments. Declaring a query with a schema registers the schema under the query's name. A call uses
the schema that the query was declared with, whatever is registered under its name later.
-/

namespace ArgCheck

inductive QueryError where
  | blankName
  | duplicate (name : String)
  | unknown (name : String)
  /-- The schema was refused, or the arguments of a call. -/
  | arguments (error : ArgumentError)
  | failed (name reason : String)
  deriving DecidableEq, Repr

namespace QueryError

def message : QueryError → String
  | .blankName => "invalid query definition: name must be present"
  | .duplicate name => "query `" ++ name ++ "` is already declared"
  | .unknown name => "no query declared as `" ++ name ++ "`"
  | .arguments error => error.message
  | .failed name _ => "query `" ++ name ++ "` failed"

def source? : QueryError → Option String
  | .arguments error => error.source?
  | .failed _ reason => some reason
  | _ => none

end QueryError

structure Query (σ ρ : Type) where
  name : String
  description : Option String
  schema : Option Schema
  body : σ → Arguments → Except String ρ

namespace Query

variable {σ ρ : Type}

/-- An empty description counts as none. -/
def make (name description : String) (schema : Option Schema)
    (body : σ → Arguments → Except String ρ) : Query σ ρ :=
  ⟨name, if description.isEmpty then none else some description, schema, body⟩

def argumentCount (query : Query σ ρ) : Nat := (query.schema.map Schema.size).getD 0

def effectiveSchema (query : Query σ ρ) : Schema := query.schema.getD .empty

def describe (query : Query σ ρ) : Json :=
  .object [
    ("name", .string query.name),
    ("description", (query.description.map .string).getD .null),
    ("args", (query.schema.map fun schema => Definition.tableJson schema.definitions).getD .null)]

end Query

structure QueryTable (σ ρ : Type) where
  queries : Table String (Query σ ρ)

namespace QueryTable

variable {σ ρ : Type}

def empty : QueryTable σ ρ := ⟨.empty⟩

def get? (table : QueryTable σ ρ) (name : String) : Option (Query σ ρ) := table.queries.get? name

def size (table : QueryTable σ ρ) : Nat := table.queries.size

def names (table : QueryTable σ ρ) : List String := table.queries.keys

def isBlank (name : String) : Bool := (Text.trim name.toList).isEmpty

def checkName (table : QueryTable σ ρ) (name : String) : Except QueryError Unit :=
  if isBlank name then .error .blankName
  else if table.queries.contains name then .error (.duplicate name)
  else .ok ()

def registerSchema (validator : Validator) (name : String) :
    Option Schema → Traced QueryError Validator
  | some schema => (validator.registerSchema name schema).mapError .arguments
  | none => pure validator

def add (table : QueryTable σ ρ) (query : Query σ ρ) : QueryTable σ ρ :=
  ⟨table.queries.insert query.name query⟩

def declare (table : QueryTable σ ρ) (validator : Validator) (query : Query σ ρ) :
    Traced QueryError (Validator × QueryTable σ ρ) := do
  Traced.ofExcept (table.checkName query.name)
  let validator ← registerSchema validator query.name query.schema
  Traced.emit .debug "declared query"
    [("query", query.name), ("arguments", Numeral.render query.argumentCount)]
  pure (validator, table.add query)

def run (query : Query σ ρ) (scope : σ) (arguments : Arguments) : Except QueryError ρ :=
  (query.body scope arguments).mapError (.failed query.name)

def call (table : QueryTable σ ρ) (validator : Validator) (scope : σ) (name : String)
    (given : Value) : Traced QueryError ρ :=
  match table.get? name with
  | none => .fail (.unknown name)
  | some query => do
    let arguments ← (validator.validate name query.effectiveSchema given).mapError .arguments
    Traced.emit .trace "calling query" [("query", name)]
    Traced.ofExcept (run query scope arguments)

end QueryTable

end ArgCheck
