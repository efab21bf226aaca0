import ArgCheck.Entity.Store
import ArgCheck.Event
import ArgCheck.Options

set_option autoImplicit false

/-!
# Record filters

A record filter takes entities of its class as they are, and looks up integers and strings as
identifiers of such entities. The class is the one that the options name, else the declared type's
own. With a store the class is always resolved through it, by name.
-/

namespace ArgCheck

structure FilterBase where
  name : String
  options : Options

namespace FilterBase

def childName (base : FilterBase) : String := base.name ++ "[]"

end FilterBase

structure RecordFilter where
  base : FilterBase
  store : Option EntityStore

namespace RecordFilter

def classRef? (filter : RecordFilter) : Option ClassRef :=
  filter.base.options.cls.or
    ((filter.base.options.declared.typeId?.bind TypeId.entityClass?).map .handle)

def typeName (filter : RecordFilter) : String :=
  match filter.classRef? with
  | some ref => ref.className
  | none => "Record"

def recordClass (filter : RecordFilter) : Except ArgumentError EntityClass :=
  match filter.classRef?, filter.store with
  | some ref, some store =>
    match store.resolveClass ref.className with
    | some c => .ok c
    | none => .error (.unresolvableClass filter.base.name ref.className)
  | some (.handle c), none => .ok c
  | some (.name s), none => .error (.storeUnavailable filter.base.name s)
  | none, _ => .error (.unresolvableClass filter.base.name filter.base.options.declared.render)

def lookupEvent (filter : RecordFilter) (c : EntityClass) (id : EntityId) : Event :=
  ⟨.trace, "looking up entity",
    [("argument", filter.base.name), ("class", c.name), ("id", id.render)]⟩

def answer (filter : RecordFilter) (store : EntityStore) (c : EntityClass) (id : EntityId) :
    Except ArgumentError Value :=
  match store.findById c id with
  | .ok (some e) => .ok (.entity e)
  | .ok none => .error (.entityNotFound filter.base.name c.name id.render)
  | .error reason => .error (.storeFailure filter.base.name reason)

def find (filter : RecordFilter) (c : EntityClass) (id : EntityId) : Traced ArgumentError Value :=
  match filter.store with
  | none => .fail (.storeUnavailable filter.base.name c.name)
  | some store => ⟨[filter.lookupEvent c id], filter.answer store c id⟩

def accepts (filter : RecordFilter) (value : Value) : Bool :=
  match value, filter.recordClass with
  | .entity e, .ok c => e.isA c
  | _, _ => false

def castIn (filter : RecordFilter) (c : EntityClass) (value : Value) : Traced ArgumentError Value :=
  match value.entityId? with
  | some id => filter.find c id
  | none => .fail (.argumentType filter.base.name c.name)

def cast (filter : RecordFilter) (value : Value) : Traced ArgumentError Value := do
  let c ← Traced.ofExcept filter.recordClass
  filter.castIn c value

/-- Resolves the class once, for whatever the value then needs. -/
def process (filter : RecordFilter) (value : Value) : Traced ArgumentError Value :=
  if value.isNull then pure value
  else do
    let c ← Traced.ofExcept filter.recordClass
    match value with
    | .entity e => if e.isA c then pure (.entity e) else filter.castIn c (.entity e)
    | value => filter.castIn c value

end RecordFilter

end ArgCheck
