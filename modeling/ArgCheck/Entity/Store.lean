import ArgCheck.Value.Basic

set_option autoImplicit false

/-!
# Entity stores

A store resolves class names and finds entities by identifier. `MemoryStore` keeps both in memory:
the first definition of a class name stays, and of the records of a class, or of a class below it,
the earliest with a matching identifier is found.
-/

namespace ArgCheck

structure EntityStore where
  resolveClass : String → Option EntityClass
  findById : EntityClass → EntityId → Except String (Option Entity)

structure MemoryStore where
  classes : Table String EntityClass
  records : List Entity

namespace MemoryStore

def empty : MemoryStore := ⟨.empty, []⟩

def addClass (classes : Table String EntityClass) (c : EntityClass) : Table String EntityClass :=
  if classes.contains c.name then classes else classes.insert c.name c

def defineClass (store : MemoryStore) (c : EntityClass) : MemoryStore :=
  { store with classes := c.lineage.foldl addClass store.classes }

def insert (store : MemoryStore) (e : Entity) : MemoryStore :=
  let store := store.defineClass e.cls
  { store with records := store.records ++ [e] }

def ofLists (classes : List EntityClass) (records : List Entity) : MemoryStore :=
  records.foldl insert (classes.foldl defineClass empty)

def resolve? (store : MemoryStore) (name : String) : Option EntityClass := store.classes.get? name

def find? (store : MemoryStore) (c : EntityClass) (id : EntityId) : Option Entity :=
  store.records.find? fun e => e.isA c && e.id.matchesId id

def size (store : MemoryStore) : Nat := store.records.length

def toStore (store : MemoryStore) : EntityStore where
  resolveClass := store.resolve?
  findById c id := .ok (store.find? c id)

/-- Knows the classes, but every look-up of a record fails. -/
def toFailingStore (store : MemoryStore) (reason : String) : EntityStore where
  resolveClass := store.resolve?
  findById _ _ := .error reason

def sample : MemoryStore :=
  let user := EntityClass.root "User"
  ((empty.insert ⟨user, .int 42, [("name", .string "Ada")]⟩).insert
    ⟨⟨"Admin", ["User"]⟩, .int 7, [("name", .string "Grace")]⟩).insert
    ⟨.root "Post", .int 1, [("title", .string "Hello")]⟩

end MemoryStore

end ArgCheck
