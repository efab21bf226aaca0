import ArgCheck.Options
import ArgCheck.Table

set_option autoImplicit false

/-!
# Arguments and schemas

An argument is what its options declare, with a coercion of its own where it has one. A schema holds
the arguments of a call under their names, in the order of their declaration.
-/

namespace ArgCheck

structure Argument where
  options : Options
  /-- Takes the place of everything else that would normalize the argument. -/
  coercer : Option (Value → Value) := none

namespace Argument

def declared (argument : Argument) : DeclaredType := argument.options.declared

def isOptional (argument : Argument) : Bool := argument.options.optional

/-- A null default counts as none. -/
def default? (argument : Argument) : Option Value :=
  argument.options.default.filter fun value => !value.isNull

/-- A default has no use in an argument that may be left out. -/
def isConflicting (argument : Argument) : Bool :=
  argument.isOptional && argument.default?.isSome

end Argument

structure Schema where
  arguments : Table String Argument

namespace Schema

def empty : Schema := ⟨.empty⟩

instance : Inhabited Schema := ⟨empty⟩

/-- A repeated name keeps its first place and its last declaration. -/
def ofList (arguments : List (String × Argument)) : Schema := ⟨.ofList arguments⟩

def insert (schema : Schema) (name : String) (argument : Argument) : Schema :=
  ⟨schema.arguments.insert name argument⟩

def entries (schema : Schema) : Entries String Argument := schema.arguments.entries

def names (schema : Schema) : List String := schema.arguments.keys

def size (schema : Schema) : Nat := schema.arguments.size

def get? (schema : Schema) (name : String) : Option Argument := schema.arguments.get? name

def contains (schema : Schema) (name : String) : Bool := schema.arguments.contains name

def namesWhere (schema : Schema) (test : String → Argument → Bool) : List String :=
  Entries.keys (schema.entries.filter fun entry => test entry.1 entry.2)

def conflicts (schema : Schema) : List String :=
  schema.namesWhere fun _ argument => argument.isConflicting

def coerced (schema : Schema) : List String :=
  schema.namesWhere fun _ argument => argument.coercer.isSome

end Schema

end ArgCheck
