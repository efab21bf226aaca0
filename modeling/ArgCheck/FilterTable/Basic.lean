import ArgCheck.Filter.Basic

set_option autoImplicit false

/-!
# The table of filters

The table gives the kind of filter for each tag and for each type identifier; an identifier without
an entry is that of an entity class and gets a record filter. `build` makes the filter of an argument
from its options, and those of the items below it.

The kind of a custom filter makes filters by a factory, which has a view of the whole table and may
have it build others. Nothing keeps factories from going on like this for ever but the end of the
stack, so the depth of the stack and what comes after it belong to the table as parameters. Deep
enough, they have no part in what is built (`build_deeper`).
-/

namespace ArgCheck

/-- A kind as factories see it. -/
inductive KindView where
  | builtin (b : Builtin)
  | record
  | custom (make : FilterBase → Traced ArgumentError Filter)

/-- All that can be asked of a table. -/
structure TableView where
  tags : List String
  store : Option EntityStore
  resolve : DeclaredType → Except ArgumentError KindView
  build : String → Options → Traced ArgumentError Filter

/-- A view stands for the way to build filters that it offers. -/
instance : CoeFun TableView fun _ => String → Options → Traced ArgumentError Filter :=
  ⟨TableView.build⟩

structure FilterFactory where
  build : TableView → FilterBase → Traced ArgumentError Filter

inductive FilterKind where
  | builtin (b : Builtin)
  | record
  | custom (factory : FilterFactory)

namespace FilterKind

def label : FilterKind → String
  | .builtin b => b.tag
  | .record => "record"
  | .custom _ => "custom"

end FilterKind

/-- How deep factories may ask for each other's filters, and what comes of asking deeper. -/
structure Depth where
  nesting : Nat := 128
  beyond : FilterBase → Except ArgumentError Filter :=
    fun base => .error (.invalidType base.options.declared.render)

structure FilterTable where
  tags : Table String FilterKind
  ids : Table TypeKey FilterKind
  store : Option EntityStore
  depth : Depth := {}

namespace FilterTable

variable {ε : Type}

def empty : FilterTable := ⟨.empty, .empty, none, {}⟩

instance : Inhabited FilterTable := ⟨empty⟩

def withStore (table : FilterTable) (store : EntityStore) : FilterTable :=
  { table with store := some store }

def attach (table : FilterTable) : Option EntityStore → FilterTable
  | some store => table.withStore store
  | none => table

def addId (kind : FilterKind) (ids : Table TypeKey FilterKind) (t : TypeId) :
    Table TypeKey FilterKind := ids.insert t.key kind

def add (table : FilterTable) (tag : String) (kind : FilterKind) (ids : List TypeId) :
    FilterTable :=
  { table with
    tags := table.tags.insert tag kind
    ids := ids.foldl (addId kind) table.ids }

/-- A warning for each identifier that had a kind when its turn came. -/
def replacedIds (kind : FilterKind) (ids : Table TypeKey FilterKind) : List TypeId → List Event
  | [] => []
  | t :: rest =>
    (if ids.contains t.key then
      [⟨.warn, "replacing filter for type identifier", [("type_id", t.name), ("kind", kind.label)]⟩]
    else []) ++ replacedIds kind (addId kind ids t) rest

def replacedTag (table : FilterTable) (tag : String) (kind : FilterKind) : List Event :=
  if table.tags.contains tag then
    [⟨.warn, "replacing filter for tag", [("tag", tag), ("kind", kind.label)]⟩]
  else []

def register (table : FilterTable) (tag : String) (kind : FilterKind) (ids : List TypeId) :
    Traced ε FilterTable :=
  ⟨replacedIds kind table.ids ids ++ table.replacedTag tag kind, .ok (table.add tag kind ids)⟩

def addBuiltin (table : FilterTable) (b : Builtin) : FilterTable :=
  table.add b.tag (.builtin b) [.builtin b]

def standard : FilterTable := (Builtin.all.foldl addBuiltin empty).add "record" .record []

def resolve (table : FilterTable) : DeclaredType → Except ArgumentError FilterKind
  | .tag name =>
    match table.tags.get? name with
    | some kind => .ok kind
    | none => .error (.unknownType name)
  | .id t => .ok ((table.ids.get? t.key).getD .record)

def buildingEvent (name : String) (kind : FilterKind) : Event :=
  ⟨.trace, "building filter", [("argument", name), ("kind", kind.label)]⟩

/-- Builds along the options; `custom` says what a factory makes of its argument. -/
def buildWith (table : FilterTable)
    (custom : FilterFactory → FilterBase → Traced ArgumentError Filter) :
    Options → String → Traced ArgumentError Filter
  | ⟨declared, optional, default, description, element, value, cls⟩, name => do
    let kind ← Traced.ofExcept (table.resolve declared)
    ⟨[buildingEvent name kind], .ok ()⟩
    let base : FilterBase :=
      ⟨name, ⟨declared, optional, default, description, element, value, cls⟩⟩
    match kind with
    | .builtin .array =>
      match element with
      | none => pure (.builtin .array base none)
      | some inner => do
        let item ← buildWith table custom inner base.childName
        pure (.builtin .array base (some item))
    | .builtin .hash =>
      match value with
      | none => pure (.builtin .hash base none)
      | some inner => do
        let item ← buildWith table custom inner base.childName
        pure (.builtin .hash base (some item))
    | .builtin b => pure (.builtin b base none)
    | .record => pure (.record ⟨base, table.store⟩)
    | .custom factory => custom factory base

def viewKind (custom : FilterFactory → FilterBase → Traced ArgumentError Filter) :
    FilterKind → KindView
  | .builtin b => .builtin b
  | .record => .record
  | .custom factory => .custom (custom factory)

def view (table : FilterTable)
    (custom : FilterFactory → FilterBase → Traced ArgumentError Filter) : TableView where
  tags := table.tags.keys
  store := table.store
  resolve declared := (table.resolve declared).map (viewKind custom)
  build name options := table.buildWith custom options name

/-- What a factory makes, where those that are nested too deep make what `beyond` says. -/
def makeNested (table : FilterTable)
    (beyond : FilterFactory → FilterBase → Traced ArgumentError Filter) :
    Nat → FilterFactory → FilterBase → Traced ArgumentError Filter
  | 0 => beyond
  | nesting + 1 => fun factory base =>
    factory.build (table.view (makeNested table beyond nesting)) base

def make (table : FilterTable) : FilterFactory → FilterBase → Traced ArgumentError Filter :=
  table.makeNested (fun _ base => .ofExcept (table.depth.beyond base)) table.depth.nesting

def build (table : FilterTable) (name : String) (options : Options) :
    Traced ArgumentError Filter :=
  table.buildWith table.make options name

end FilterTable

end ArgCheck
