import ArgCheck.Numeral
import ArgCheck.Table
import ArgCheck.Text.Blank

set_option autoImplicit false

/-!
# Entity classes and identifiers

A class has a name and a chain of ancestors, nearest first. Classes are told apart by name alone, and
one class is another if that name stands in its own chain. A textual identifier names the same
record as a numeric one if it is a spelling of that number.
-/

namespace ArgCheck

structure EntityClass where
  name : String
  ancestors : List String

namespace EntityClass

def root (name : String) : EntityClass := ⟨name, []⟩

def chain (c : EntityClass) : List String := c.name :: c.ancestors

def parent? (c : EntityClass) : Option EntityClass :=
  match c.ancestors with
  | [] => none
  | name :: rest => some ⟨name, rest⟩

def sameName (a b : EntityClass) : Bool := a.name == b.name

/-- The class itself, or one of its ancestors. -/
def isA (c other : EntityClass) : Bool := c.chain.contains other.name

/-- The classes named by a chain, each with the rest of the chain as its ancestors. -/
def ofChain : List String → List EntityClass
  | [] => []
  | name :: rest => ⟨name, rest⟩ :: ofChain rest

def lineage (c : EntityClass) : List EntityClass := ofChain c.chain

theorem isA_iff (c other : EntityClass) : c.isA other = true ↔ other.name ∈ c.chain := by
  simp [isA]

theorem isA_self (c : EntityClass) : c.isA c = true := by
  simp [isA, chain]

end EntityClass

/-- A class as a declaration refers to it: the class itself, or a name to look up. -/
inductive ClassRef where
  | handle (c : EntityClass)
  | name (s : String)

namespace ClassRef

def className : ClassRef → String
  | .handle c => c.name
  | .name s => s

end ClassRef

inductive EntityId where
  | int (n : Int64)
  | text (s : String)
  deriving DecidableEq

namespace EntityId

def spells (s : String) (n : Int64) : Bool :=
  Numeral.int64? (Text.trim s.toList) == some n

/-- Equal identifiers match, and a text matches the number that it spells. -/
def matchesId : EntityId → EntityId → Bool
  | .int a, .int b => a == b
  | .text a, .text b => a == b
  | .int n, .text s => spells s n
  | .text s, .int n => spells s n

def render : EntityId → String
  | .int n => Numeral.render n.toInt
  | .text s => s

theorem matchesId_comm (a b : EntityId) : a.matchesId b = b.matchesId a := by
  cases a <;> cases b <;> simp [matchesId, Bool.beq_comm]

end EntityId

structure EntityOf (α : Type) where
  cls : EntityClass
  id : EntityId
  attributes : List (String × α)

namespace EntityOf

variable {α : Type}

def isA (e : EntityOf α) (c : EntityClass) : Bool := e.cls.isA c

def attribute? (e : EntityOf α) (name : String) : Option α := Entries.lookup name e.attributes

def label (e : EntityOf α) : String := e.cls.name ++ "#" ++ e.id.render

end EntityOf

end ArgCheck
