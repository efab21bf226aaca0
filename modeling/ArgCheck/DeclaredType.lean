import ArgCheck.Builtin
import ArgCheck.Error
import ArgCheck.Json.Printer

set_option autoImplicit false

/-!
# Type identifiers and declared types

A type identifier is a builtin type or an entity class; tables look it up by its key, which keeps
only the name of a class. A declaration gives a type by tag or by identifier. In JSON a tag is a
string and a class an object with the one member `class`; a builtin identifier is written as its tag.
-/

namespace ArgCheck

/-- What tables tell type identifiers apart by. -/
inductive TypeKey where
  | builtin (b : Builtin)
  | entity (name : String)
  deriving DecidableEq, Repr

inductive TypeId where
  | builtin (b : Builtin)
  | entity (c : EntityClass)

namespace TypeId

def name : TypeId → String
  | .builtin b => b.name
  | .entity c => c.name

def key : TypeId → TypeKey
  | .builtin b => .builtin b
  | .entity c => .entity c.name

def entityClass? : TypeId → Option EntityClass
  | .entity c => some c
  | .builtin _ => none

/-- Entities belong to their class and to its ancestors. -/
def isInstance : TypeId → Value → Bool
  | .builtin b, value => b.isInstance value
  | .entity c, .entity e => e.isA c
  | .entity _, _ => false

end TypeId

inductive DeclaredType where
  | tag (name : String)
  | id (t : TypeId)

namespace DeclaredType

instance : Inhabited DeclaredType := ⟨.tag ""⟩

def render : DeclaredType → String
  | .tag name => name
  | .id t => t.name

/-- A tag of a builtin type stands for its identifier; other tags have none. -/
def typeId? : DeclaredType → Option TypeId
  | .tag name => (Builtin.ofTag? name).map .builtin
  | .id t => some t

/-- The same tag, or the same identifier by key. -/
def same : DeclaredType → DeclaredType → Bool
  | .tag a, .tag b => a == b
  | .id a, .id b => a.key == b.key
  | _, _ => false

def ofJson : Json → Except ArgumentError DeclaredType
  | .string name => .ok (.tag name)
  | .object [("class", .string name)] => .ok (.id (.entity (.root name)))
  | json => .error (.invalidType json.render)

def toJson : DeclaredType → Json
  | .tag name => .string name
  | .id (.builtin b) => .string b.tag
  | .id (.entity c) => .object [("class", .string c.name)]

end DeclaredType

end ArgCheck
