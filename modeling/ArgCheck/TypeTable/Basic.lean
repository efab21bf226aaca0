import ArgCheck.DeclaredType
import ArgCheck.Event
import ArgCheck.TypeTable.Handler

set_option autoImplicit false

/-!
# The table of types

A type has up to three forms: a validator, a coercer and a handler. Registering adds the forms given
and keeps the others; a form that replaces one is reported by a warning. A validator or coercer
counts before the handler, and without either the builtin notion of an instance decides and values
stay as they are.
-/

namespace ArgCheck

structure TypeForms where
  validator : Option (Value → Bool) := none
  coercer : Option (Value → Value) := none
  handler : Option TypeHandler := none

namespace TypeForms

def isEmpty (forms : TypeForms) : Bool :=
  forms.validator.isNone && forms.coercer.isNone && forms.handler.isNone

/-- The newer forms, and the older ones where there is no newer. -/
def merge (older newer : TypeForms) : TypeForms where
  validator := newer.validator.or older.validator
  coercer := newer.coercer.or older.coercer
  handler := newer.handler.or older.handler

def coerces (forms : TypeForms) : Bool := forms.coercer.isSome || forms.handler.isSome

end TypeForms

structure TypeTable where
  entries : Table TypeKey TypeForms

namespace TypeTable

variable {ε : Type}

def empty : TypeTable := ⟨.empty⟩

instance : Inhabited TypeTable := ⟨empty⟩

def forms (table : TypeTable) (t : TypeId) : TypeForms := (table.entries.get? t.key).getD {}

/-- Registering nothing leaves the table as it is. -/
def add (table : TypeTable) (t : TypeId) (newer : TypeForms) : TypeTable :=
  if newer.isEmpty then table
  else ⟨table.entries.insert t.key ((table.forms t).merge newer)⟩

def flag (b : Bool) : String := if b then "true" else "false"

def replaced (older newer : Bool) (t : TypeId) (message : String) : List Event :=
  if older && newer then [⟨.warn, message, [("type_id", t.name)]⟩] else []

def registrationEvents (table : TypeTable) (t : TypeId) (newer : TypeForms) : List Event :=
  if newer.isEmpty then
    [⟨.debug, "ignoring empty type registration", [("type_id", t.name)]⟩]
  else
    let older := table.forms t
    replaced older.validator.isSome newer.validator.isSome t "replacing registered validator" ++
    replaced older.coercer.isSome newer.coercer.isSome t "replacing registered coercer" ++
    replaced older.handler.isSome newer.handler.isSome t "replacing registered type handler" ++
    [⟨.debug, "registered type",
      [("type_id", t.name), ("validator", flag newer.validator.isSome),
        ("coercer", flag newer.coercer.isSome), ("handler", flag newer.handler.isSome)]⟩]

def register (table : TypeTable) (t : TypeId) (newer : TypeForms) : Traced ε TypeTable :=
  ⟨table.registrationEvents t newer, .ok (table.add t newer)⟩

def registerHandlers (table : TypeTable) : List (Builtin × TypeHandler) → Traced ε TypeTable
  | [] => pure table
  | (b, handler) :: rest => do
    let table ← table.register (.builtin b) { handler := some handler }
    table.registerHandlers rest

def registerBuiltins (table : TypeTable) : Traced ε TypeTable :=
  table.registerHandlers TypeHandler.builtins

def isRegistered (table : TypeTable) (t : TypeId) : Bool := table.entries.contains t.key

def remove (table : TypeTable) (t : TypeId) : TypeTable := ⟨table.entries.erase t.key⟩

def unregister (table : TypeTable) (t : TypeId) : Traced ε (TypeTable × Bool) :=
  if table.isRegistered t then
    ⟨[⟨.debug, "unregistered type", [("type_id", t.name)]⟩], .ok (table.remove t, true)⟩
  else ⟨[], .ok (table, false)⟩

def valid (table : TypeTable) (t : TypeId) (value : Value) : Bool :=
  let forms := table.forms t
  match forms.validator, forms.handler with
  | some validator, _ => validator value
  | none, some handler => handler.valid value
  | none, none => t.isInstance value

def coerce (table : TypeTable) (t : TypeId) (value : Value) : Value :=
  let forms := table.forms t
  match forms.coercer, forms.handler with
  | some coercer, _ => coercer value
  | none, some handler => handler.coerce value
  | none, none => value

def hasCoercer (table : TypeTable) (t : TypeId) : Bool := (table.forms t).coerces

def size (table : TypeTable) : Nat := table.entries.size

end TypeTable

end ArgCheck
