import ArgCheck.Proofs.Filter.Building
import Mathlib.Data.List.Induction

set_option autoImplicit false

/-!
# Which declared types a filter needs

Building goes down a chain of options, from an array to its elements and from a map to its values, and
fails at the first type that resolves to nothing (`CustomFree.build_error_iff`). After any registrations
a tag resolves to the last kind registered for it, and an identifier to the last one or to records, so it
can be told from the log of registrations alone what builds (`build_along_chain`).
-/

namespace ArgCheck

def DeclaredType.tag? : DeclaredType → Option String
  | .tag name => some name
  | .id _ => none

namespace Options

variable (kindOf : DeclaredType → Option FilterKind)

/-- The options that building looks at, outermost first, when types stand for these kinds. -/
def chain : Options → List Options
  | ⟨declared, optional, default, description, element, value, cls⟩ =>
    ⟨declared, optional, default, description, element, value, cls⟩ ::
      match kindOf declared with
      | some (.builtin .array) =>
        match element with
        | some inner => chain inner
        | none => []
      | some (.builtin .hash) =>
        match value with
        | some inner => chain inner
        | none => []
      | _ => []

def chainTags (options : Options) : List String :=
  (options.chain kindOf).filterMap fun inner => inner.declared.tag?

variable {kindOf} {options inner : Options} {b : Builtin}

theorem head_chain (options : Options) : (options.chain kindOf)[0]? = some options := by
  obtain ⟨declared, optional, default, description, element, value, cls⟩ := options
  rw [chain.eq_def]
  rfl

theorem chain_of_items (kind : kindOf options.declared = some (.builtin b))
    (items : options.itemsOf b = some inner) :
    options.chain kindOf = options :: inner.chain kindOf := by
  obtain ⟨declared, optional, default, description, element, value, cls⟩ := options
  simp only at kind
  cases b with
  | array | hash =>
    simp only [itemsOf] at items
    subst items
    rw [chain.eq_def]
    simp only [kind]
  | _ => cases items

theorem chain_of_bare
    (bare : ∀ b, kindOf options.declared = some (.builtin b) → options.itemsOf b = none) :
    options.chain kindOf = [options] := by
  obtain ⟨declared, optional, default, description, element, value, cls⟩ := options
  rw [chain.eq_def]
  simp only
  split
  · rename_i kind
    have absent : element = none := bare .array kind
    rw [absent]
  · rename_i kind
    have absent : value = none := bare .hash kind
    rw [absent]
  · rfl

end Options

namespace FilterTable

variable {table : FilterTable}

def kindOf (table : FilterTable) (declared : DeclaredType) : Option FilterKind :=
  (table.resolve declared).toOption

theorem kindOf_of_resolve {declared : DeclaredType} {kind : FilterKind}
    (h : table.resolve declared = .ok kind) : table.kindOf declared = some kind := by
  rw [kindOf, h]
  rfl

theorem kindOf_of_error {declared : DeclaredType} {error : ArgumentError}
    (h : table.resolve declared = .error error) : table.kindOf declared = none := by
  rw [kindOf, h]
  rfl

/-- A filter fails to build as the first type along the chain fails to resolve. -/
theorem CustomFree.build_error_iff (plain : table.CustomFree) (name : String) (options : Options)
    (error : ArgumentError) :
    (table.build name options).result = .error error ↔
      Sequence.FailsFirst (fun inner : Options => table.resolve inner.declared)
        (options.chain table.kindOf) error := by
  induction options using Options.induction generalizing name with
  | step options ih =>
    rw [build_result]
    cases found : table.resolve options.declared with
    | error first =>
      have alone : options.chain table.kindOf = [options] := by
        refine Options.chain_of_bare ?_
        intro b kind
        rw [kindOf_of_error found] at kind
        cases kind
      rw [alone, Sequence.failsFirst_cons, found]
      simp [Except.bind, Sequence.not_failsFirst_nil]
    | ok kind =>
      have known := kindOf_of_resolve found
      have ends : (∀ b, kind = .builtin b → options.itemsOf b = none) →
          ¬ Sequence.FailsFirst (fun inner : Options => table.resolve inner.declared)
            (options.chain table.kindOf) error := by
        intro bare
        have alone : options.chain table.kindOf = [options] := by
          refine Options.chain_of_bare ?_
          intro b same
          exact bare b (Option.some.inj (known.symm.trans same))
        rw [alone, Sequence.failsFirst_cons, found]
        simp [Sequence.not_failsFirst_nil]
      cases kind with
      | builtin b =>
        cases items : options.itemsOf b with
        | none =>
          simp only [Except.bind, assemble, items]
          refine iff_of_false (by simp) (ends ?_)
          rintro _ ⟨⟩
          exact items
        | some inner =>
          simp only [Except.bind, assemble, items]
          rw [Sequence.map_error_iff, ih b inner items, Options.chain_of_items known items,
            Sequence.failsFirst_cons, found]
          simp
      | record =>
        refine iff_of_false (by simp [Except.bind, assemble]) (ends ?_)
        intro b same
        cases same
      | custom factory => cases plain.resolve found

/-- One call to register a kind, with the identifiers that share it. -/
structure Registration where
  tag : String
  kind : FilterKind
  ids : List TypeId

namespace Registration

def standard : List Registration :=
  (Builtin.all.map fun b => ⟨b.tag, .builtin b, [.builtin b]⟩) ++ [⟨"record", .record, []⟩]

def covers (key : TypeKey) (entry : Registration) : Bool := entry.ids.any fun t => t.key = key

end Registration

section Logs

variable {ε : Type}

def registerAll (table : FilterTable) : List Registration → Traced ε FilterTable
  | [] => pure table
  | entry :: rest => do
    let table ← table.register entry.tag entry.kind entry.ids
    table.registerAll rest

def enter (table : FilterTable) (entry : Registration) : FilterTable :=
  table.add entry.tag entry.kind entry.ids

theorem registerAll_result (table : FilterTable) (log : List Registration) :
    (table.registerAll log : Traced ε FilterTable).result = .ok (log.foldl enter table) := by
  induction log generalizing table with
  | nil => rfl
  | cons entry rest ih =>
    rw [registerAll, Traced.result_bind]
    exact ih (table.enter entry)

def lastTagged (log : List Registration) (tag : String) : Option FilterKind :=
  ((log.filter fun entry => entry.tag = tag).getLast?).map Registration.kind

/-- The kind of the last registration for the identifier. -/
def lastIdentified (log : List Registration) (key : TypeKey) : Option FilterKind :=
  ((log.filter (Registration.covers key)).getLast?).map Registration.kind

/-- What the log makes of a declared type; an identifier without an entry is that of a record. -/
def lastKind (log : List Registration) : DeclaredType → Option FilterKind
  | .tag tag => lastTagged log tag
  | .id t => some ((lastIdentified log t.key).getD .record)

def Registered (log : List Registration) (tag : String) : Prop := ∃ entry ∈ log, entry.tag = tag

theorem lastTagged_append (log : List Registration) (entry : Registration) (tag : String) :
    lastTagged (log ++ [entry]) tag =
      if entry.tag = tag then some entry.kind else lastTagged log tag := by
  unfold lastTagged
  by_cases same : entry.tag = tag <;> simp [List.filter_append, same]

theorem lastIdentified_append (log : List Registration) (entry : Registration) (key : TypeKey) :
    lastIdentified (log ++ [entry]) key =
      if entry.covers key then some entry.kind else lastIdentified log key := by
  unfold lastIdentified
  cases covered : entry.covers key <;> simp [List.filter_append, covered]

theorem lastTagged_eq_none_iff (log : List Registration) (tag : String) :
    lastTagged log tag = none ↔ ¬ Registered log tag := by
  simp [lastTagged, Registered]

theorem get?_foldl_addId (kind : FilterKind) (ids : List TypeId) (known : Table TypeKey FilterKind)
    (key : TypeKey) : (ids.foldl (addId kind) known).get? key =
      if ids.any fun t => t.key = key then some kind else known.get? key := by
  induction ids generalizing known with
  | nil => rfl
  | cons t rest ih =>
    rw [List.foldl_cons, ih, addId, Table.get?_insert]
    by_cases later : (rest.any fun t => t.key = key) = true
    · simp [later]
    · by_cases now : t.key = key <;> simp [later, now]

/-- The table answers as the log says. -/
structure Follows (table : FilterTable) (log : List Registration) : Prop where
  tags : ∀ tag, table.tags.get? tag = lastTagged log tag
  ids : ∀ key, table.ids.get? key = lastIdentified log key

theorem follows_empty : empty.Follows [] := ⟨fun _ => rfl, fun _ => rfl⟩

theorem Follows.enter {log : List Registration} (follows : table.Follows log)
    (entry : Registration) : (table.enter entry).Follows (log ++ [entry]) := by
  constructor
  · intro tag
    rw [lastTagged_append, ← follows.tags]
    exact Table.get?_insert table.tags entry.tag tag entry.kind
  · intro key
    rw [lastIdentified_append, ← follows.ids]
    exact get?_foldl_addId entry.kind entry.ids table.ids key

theorem follows_foldl (log : List Registration) : (log.foldl enter empty).Follows log := by
  induction log using List.reverseRecOn with
  | nil => exact follows_empty
  | append_singleton log entry ih =>
    rw [List.foldl_append]
    exact ih.enter entry

theorem Follows.kindOf {log : List Registration} (follows : table.Follows log) :
    table.kindOf = lastKind log := by
  funext declared
  cases declared with
  | tag tag =>
    rw [lastKind, ← follows.tags, FilterTable.kindOf, resolve]
    cases table.tags.get? tag <;> rfl
  | id t =>
    rw [lastKind, ← follows.ids]
    rfl

theorem Follows.resolve_tag_ok_iff {log : List Registration} (follows : table.Follows log)
    (tag : String) : (∃ kind, table.resolve (.tag tag) = .ok kind) ↔ Registered log tag := by
  rw [← not_iff_not, ← lastTagged_eq_none_iff, ← follows.tags, resolve]
  cases table.tags.get? tag <;> simp

theorem Follows.resolve_tag_error_iff {log : List Registration} (follows : table.Follows log)
    (tag : String) (error : ArgumentError) :
    table.resolve (.tag tag) = .error error ↔ ¬ Registered log tag ∧ error = .unknownType tag := by
  rw [← lastTagged_eq_none_iff, ← follows.tags, resolve]
  cases table.tags.get? tag <;> simp [eq_comm]

inductive Origin where
  | empty
  | standard

namespace Origin

def made : Origin → FilterTable
  | .empty => FilterTable.empty
  | .standard => FilterTable.standard

def log : Origin → List Registration
  | .empty => []
  | .standard => Registration.standard

theorem made_eq (origin : Origin) : origin.made = origin.log.foldl enter FilterTable.empty := by
  cases origin <;> rfl

theorem customFree (origin : Origin) : origin.made.CustomFree := by
  cases origin with
  | empty => exact customFree_empty
  | standard => exact customFree_standard

end Origin

theorem CustomFree.foldl_enter (plain : table.CustomFree) {log : List Registration}
    (entries : ∀ entry ∈ log, entry.kind.isCustom = false) :
    (log.foldl FilterTable.enter table).CustomFree :=
  List.foldlRecOn log FilterTable.enter plain fun _ known entry member =>
    known.add (entries entry member) entry.tag entry.ids

/-- What types resolve to and which filters build, told from the log alone. -/
structure BuildsBy (table : FilterTable) (log : List Registration) : Prop where
  identifier : ∀ t, table.resolve (.id t) = .ok ((lastIdentified log t.key).getD .record)
  tag : ∀ tag, table.resolve (.tag tag) = match lastTagged log tag with
    | some kind => .ok kind
    | none => .error (.unknownType tag)
  builds : ∀ name options, (∃ filter, (table.build name options).result = .ok filter) ↔
    ∀ tag ∈ options.chainTags (lastKind log), Registered log tag
  /-- The error names the outermost tag that is not registered. -/
  fails : ∀ name options error, (table.build name options).result = .error error ↔
    ∃ before tag after, options.chainTags (lastKind log) = before ++ tag :: after ∧
      (∀ earlier ∈ before, Registered log earlier) ∧ ¬ Registered log tag ∧
      error = .unknownType tag
  /-- All else in the options, and the argument's name, has no part in it. -/
  offChain : ∀ name options argument other,
    options.chainTags (lastKind log) = other.chainTags (lastKind log) →
    ∀ error, (table.build name options).result = .error error ↔
      (table.build argument other).result = .error error

theorem CustomFree.firstTag {log : List Registration} (plain : table.CustomFree)
    (follows : table.Follows log) (name : String) (options : Options) (error : ArgumentError) :
    (table.build name options).result = .error error ↔
      Sequence.FailsFirst (fun tag => table.resolve (.tag tag)) (options.chainTags (lastKind log))
        error := by
  rw [plain.build_error_iff, follows.kindOf, Options.chainTags]
  refine Sequence.failsFirst_filterMap ?_ ?_ _ error
  · intro inner untagged
    cases declared : inner.declared with
    | tag tag =>
      rw [declared] at untagged
      cases untagged
    | id t => exact ⟨_, rfl⟩
  · intro inner tag tagged
    cases declared : inner.declared with
    | tag own =>
      rw [declared] at tagged
      cases tagged
      rfl
    | id t =>
      rw [declared] at tagged
      cases tagged

theorem CustomFree.buildsBy {log : List Registration} (plain : table.CustomFree)
    (follows : table.Follows log) : table.BuildsBy log := by
  have first := plain.firstTag follows
  constructor
  case identifier =>
    intro t
    rw [← follows.ids]
    rfl
  case tag =>
    intro tag
    rw [← follows.tags]
    rfl
  case builds =>
    intro name options
    rw [Sequence.ok_iff_of_error_iff (first name options)]
    exact forall₂_congr fun tag _ => follows.resolve_tag_ok_iff tag
  case fails =>
    intro name options error
    rw [first, Sequence.FailsFirst]
    simp only [follows.resolve_tag_ok_iff, follows.resolve_tag_error_iff]
  case offChain =>
    intro name options argument other same error
    rw [first, first, same]

/-- Registering builtin kinds and records, from either origin, always succeeds. What then resolves and
builds, and which error comes otherwise, the log of all registrations says. -/
theorem build_along_chain (origin : Origin) (log : List Registration)
    (plain : ∀ entry ∈ log, entry.kind.isCustom = false) :
    ∃ table, (origin.made.registerAll log : Traced ε FilterTable).result = .ok table ∧
      table.BuildsBy (origin.log ++ log) := by
  refine ⟨log.foldl enter origin.made, registerAll_result origin.made log, ?_⟩
  have history : log.foldl enter origin.made = (origin.log ++ log).foldl enter empty := by
    rw [List.foldl_append, ← origin.made_eq]
  refine (origin.customFree.foldl_enter plain).buildsBy ?_
  rw [history]
  exact follows_foldl (origin.log ++ log)

end Logs

def rebound : List Registration :=
  [⟨"array", .builtin .hash, []⟩, ⟨"list", .builtin .array, [.entity (.root "Rows")]⟩]

def shelves : Options where
  declared := .tag "array"
  element := some (.ofType (.tag "nothing"))
  value := some
    { declared := .id (.entity ⟨"Rows", ["Table"]⟩), element := some (.ofType (.tag "colour")) }

theorem build_along_chain_rebound : ∃ table,
    (standard.registerAll rebound : Traced ArgumentError FilterTable).result = .ok table ∧
      (table.build "shelves" shelves).result = .error (.unknownType "colour") := by
  obtain ⟨table, registered, known⟩ :=
    build_along_chain (ε := ArgumentError) .standard rebound (by decide)
  refine ⟨table, registered, (known.fails "shelves" shelves _).mpr ?_⟩
  refine ⟨["array"], "colour", [], rfl, ?_, ?_, rfl⟩
  · intro tag member
    rw [List.mem_singleton.mp member]
    exact ⟨⟨"array", .builtin .hash, []⟩, by simp [rebound], rfl⟩
  · rw [← lastTagged_eq_none_iff]
    rfl

end FilterTable

end ArgCheck
