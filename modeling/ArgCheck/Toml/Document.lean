import ArgCheck.Json.Basic

set_option autoImplicit false

/-!
# Documents of TOML

A document is put together from sections: a header with the assignments below it. Every table knows
how it came about, because a table may be defined once, by its header or by dotted keys, but the
headers of tables inside it may come first. A header that defines a table which others implied moves
it behind the other entries.
-/

namespace ArgCheck.Toml

inductive Origin where
  /-- By its own header. -/
  | header
  /-- By the header of a table inside it. -/
  | implied
  /-- By a dotted key. -/
  | dotted
  deriving DecidableEq

inductive Node where
  | leaf (json : Json)
  | table (origin : Origin) (entries : List (String × Node))
  /-- The tables of one array, in order. -/
  | tables (items : List (List (String × Node)))

abbrev Nodes := List (String × Node)

structure Assignment where
  /-- The key's parts before the last. -/
  path : List String
  key : String
  value : Json

inductive Header where
  | table (path : List String) (key : String)
  | item (path : List String) (key : String)

structure Section where
  header : Header
  assignments : List Assignment

def append (key : String) (node : Node) (nodes : Nodes) : Nodes :=
  Entries.erase key nodes ++ [(key, node)]

def addLeaf (key : String) (value : Json) (nodes : Nodes) : Option Nodes :=
  if Entries.contains key nodes then none else some (append key (.leaf value) nodes)

def onLast (change : Nodes → Option Nodes) : List Nodes → Option (List Nodes)
  | [] => none
  | [last] => (change last).map fun last => [last]
  | item :: rest => (onLast change rest).map (item :: ·)

/-- Writes a value under a dotted key. A table on the way may not have a header of its own, and the
last one must be there by dotted keys alone. -/
def assign (key : String) (value : Json) : List String → Nodes → Option Nodes
  | [], nodes => addLeaf key value nodes
  | name :: path, nodes =>
    match Entries.lookup name nodes with
    | none => (assign key value path []).map fun inner => append name (.table .dotted inner) nodes
    | some (.leaf _) => none
    | some (.table origin inner) =>
      if origin = .header ∨ path = [] ∧ origin ≠ .dotted then none
      else
        (assign key value path inner).map fun inner =>
          Entries.insert name (.table origin inner) nodes
    | some (.tables items) =>
      if path = [] then none
      else
        (onLast (assign key value path) items).map fun items =>
          Entries.insert name (.tables items) nodes

def assignAll (assignments : List Assignment) (nodes : Nodes) : Option Nodes :=
  assignments.foldlM (fun nodes a => assign a.key a.value a.path nodes) nodes

/-- Changes the table at a path of headers; tables on the way are implied. -/
def within (change : Nodes → Option Nodes) : List String → Nodes → Option Nodes
  | [], nodes => change nodes
  | name :: path, nodes =>
    match Entries.lookup name nodes with
    | none => (within change path []).map fun inner => append name (.table .implied inner) nodes
    | some (.leaf _) => none
    | some (.table origin inner) =>
      (within change path inner).map fun inner => Entries.insert name (.table origin inner) nodes
    | some (.tables items) =>
      (onLast (within change path) items).map fun items => Entries.insert name (.tables items) nodes

def defineTable (key : String) (assignments : List Assignment) (nodes : Nodes) : Option Nodes :=
  match Entries.lookup key nodes with
  | none => (assignAll assignments []).map fun inner => append key (.table .header inner) nodes
  | some (.table .implied inner) =>
    (assignAll assignments inner).map fun inner => append key (.table .header inner) nodes
  | some _ => none

def addItem (key : String) (assignments : List Assignment) (nodes : Nodes) : Option Nodes :=
  match Entries.lookup key nodes with
  | none => (assignAll assignments []).map fun inner => append key (.tables [inner]) nodes
  | some (.tables items) =>
    (assignAll assignments []).map fun inner =>
      Entries.insert key (.tables (items ++ [inner])) nodes
  | some _ => none

def addSection (nodes : Nodes) (s : Section) : Option Nodes :=
  match s.header with
  | .table path key => within (defineTable key s.assignments) path nodes
  | .item path key => within (addItem key s.assignments) path nodes

def document? (assignments : List Assignment) (sections : List Section) : Option Nodes := do
  let root ← assignAll assignments []
  sections.foldlM addSection root

mutual

def Node.toJson : Node → Json
  | .leaf json => json
  | .table _ entries => .object (nodesJson entries)
  | .tables items => .array (itemsJson items)

def nodesJson : List (String × Node) → List (String × Json)
  | [] => []
  | (key, node) :: rest => (key, node.toJson) :: nodesJson rest

def itemsJson : List (List (String × Node)) → List Json
  | [] => []
  | item :: rest => .object (nodesJson item) :: itemsJson rest

end

/-- The table that stands in braces on one line. -/
def inlineTable? (assignments : List Assignment) : Option Json :=
  (assignAll assignments []).map fun nodes => .object (nodesJson nodes)

end ArgCheck.Toml
