import ArgCheck.Proofs.Text.Separators
import ArgCheck.Proofs.Validator.Calls
import ArgCheck.QueryTable
import Mathlib.Logic.Function.Basic

set_option autoImplicit false

/-!
# Query tables that share a validator

Any number of query tables, each with scopes and results of its own, register their schemas with one
validator. `Changing` makes a declaration a sequence of checks and writes on the shared state, and
`Changing.declare_on` says that this comes to what `QueryTable.declare` answers: no write stands
before a failure. After any run each table holds the queries that it took in, and calls go by the
schemas with which these were declared (`performAll_calls`).
-/

namespace ArgCheck.QueryTable

variable {ι : Type} {σ ρ : ι → Type}

structure Shared (ι : Type) (σ ρ : ι → Type) where
  validator : Validator
  tables : (i : ι) → QueryTable (σ i) (ρ i)

inductive Action (ι : Type) (σ ρ : ι → Type) where
  | declare (i : ι) (query : Query (σ i) (ρ i))
  | registerSchema (name : String) (schema : Schema)

/-- A failure does not take back what was written before it. -/
abbrev Changing (ι : Type) (σ ρ : ι → Type) := ExceptT QueryError (StateM (Shared ι σ ρ))

namespace Changing

def check {α : Type} : Except QueryError α → Changing ι σ ρ Unit
  | .ok _ => pure ()
  | .error error => throw error

def registerSchema (name : String) (schema : Schema) : Changing ι σ ρ Unit := do
  let shared ← get
  check ((Validator.checkSchema name schema).mapError .arguments)
  check ((Validation.buildSlots shared.validator.filters schema.entries).result.mapError .arguments)
  modify fun shared => { shared with validator := shared.validator.addSchema name schema }

def registerSchema? (name : String) : Option Schema → Changing ι σ ρ Unit
  | some schema => registerSchema name schema
  | none => pure ()

def declare [DecidableEq ι] (i : ι) (query : Query (σ i) (ρ i)) : Changing ι σ ρ Unit := do
  let shared ← get
  check ((shared.tables i).checkName query.name)
  registerSchema? query.name query.schema
  modify fun shared =>
    { shared with tables := Function.update shared.tables i ((shared.tables i).add query) }

def on {α : Type} (x : Changing ι σ ρ α) (shared : Shared ι σ ρ) :
    Except QueryError α × Shared ι σ ρ := x.run.run shared

section Run

variable {α β : Type} {shared : Shared ι σ ρ}

theorem on_bind (x : Changing ι σ ρ α) (f : α → Changing ι σ ρ β) :
    (x >>= f).on shared = match x.on shared with
      | (.ok a, shared) => (f a).on shared
      | (.error error, shared) => (.error error, shared) := by
  change (match x.on shared with
    | (outcome, shared) => (ExceptT.bindCont f outcome).run shared) = _
  obtain ⟨outcome, after⟩ := x.on shared
  cases outcome <;> rfl

theorem on_get_bind (f : Shared ι σ ρ → Changing ι σ ρ β) :
    (get >>= f).on shared = (f shared).on shared := rfl

theorem on_check_bind (outcome : Except QueryError α) (f : Unit → Changing ι σ ρ β) :
    (check outcome >>= f).on shared = match outcome with
      | .ok _ => (f ()).on shared
      | .error error => (.error error, shared) := by
  rw [on_bind]
  cases outcome <;> rfl

end Run

theorem registerSchema_on (shared : Shared ι σ ρ) (name : String) (schema : Schema) :
    (registerSchema name schema).on shared =
      match (shared.validator.registerSchema name schema).result with
      | .ok validator => (.ok (), { shared with validator })
      | .error error => (.error (.arguments error), shared) := by
  rw [registerSchema, on_get_bind, on_check_bind, Validator.registerSchema]
  simp only [Traced.result_bind, Traced.result_ofExcept]
  cases Validator.checkSchema name schema with
  | error error => rfl
  | ok _ =>
    simp only [Except.mapError, Except.bind]
    rw [on_check_bind]
    cases (Validation.buildSlots shared.validator.filters schema.entries).result <;> rfl

theorem registerSchema?_on (shared : Shared ι σ ρ) (name : String) (schema : Option Schema) :
    (registerSchema? name schema).on shared =
      match (QueryTable.registerSchema shared.validator name schema).result with
      | .ok validator => (.ok (), { shared with validator })
      | .error error => (.error error, shared) := by
  cases schema with
  | none => rfl
  | some schema =>
    rw [registerSchema?, registerSchema_on, QueryTable.registerSchema, Traced.result_mapError]
    cases (shared.validator.registerSchema name schema).result <;> rfl

/-- The checks and writes in their order come to one answer of the table, or to no change. -/
theorem declare_on [DecidableEq ι] (shared : Shared ι σ ρ) (i : ι) (query : Query (σ i) (ρ i)) :
    (declare i query).on shared =
      match ((shared.tables i).declare shared.validator query).result with
      | .ok (validator, table) => (.ok (), ⟨validator, Function.update shared.tables i table⟩)
      | .error error => (.error error, shared) := by
  rw [declare, on_get_bind, on_check_bind, QueryTable.declare]
  simp only [Traced.result_bind, Traced.result_ofExcept, Traced.result_emit, Traced.result_pure]
  cases (shared.tables i).checkName query.name with
  | error error => rfl
  | ok _ =>
    simp only [Except.bind]
    rw [on_bind, registerSchema?_on]
    cases (QueryTable.registerSchema shared.validator query.name query.schema).result <;> rfl

end Changing

section Declare

variable {α β : Type} {table : QueryTable α β} {validator next : Validator} {name : String}
  {query : Query α β}

theorem registerSchema_ok {schema : Option Schema}
    (h : (registerSchema validator name schema).result = .ok next) :
    next = schema.elim validator (validator.addSchema name) := by
  cases schema with
  | none =>
    cases h
    rfl
  | some schema =>
    rw [registerSchema, Traced.result_mapError] at h
    cases taken : (validator.registerSchema name schema).result with
    | error error =>
      rw [taken] at h
      cases h
    | ok other =>
      rw [taken] at h
      cases h
      exact ((Validator.registerSchema_ok_iff next).mp taken).2

theorem declare_result (table : QueryTable α β) (validator : Validator) (query : Query α β) :
    (table.declare validator query).result =
      (table.checkName query.name).bind fun _ =>
        (registerSchema validator query.name query.schema).result.map fun validator =>
          (validator, table.add query) := by
  rw [declare]
  simp only [Traced.result_bind, Traced.result_ofExcept, Traced.result_emit, Traced.result_pure]
  cases table.checkName query.name with
  | error error => rfl
  | ok _ => cases (registerSchema validator query.name query.schema).result <;> rfl

theorem isBlank_iff (name : String) : isBlank name = true ↔ Text.Blank name.toList := by
  rw [isBlank, List.isEmpty_iff, Text.trim_eq_nil_iff]

theorem checkName_of_blank (table : QueryTable α β) (blank : Text.Blank name.toList) :
    table.checkName name = .error .blankName := by
  rw [checkName, if_pos ((isBlank_iff name).mpr blank)]

theorem checkName_of_mem (marked : ¬ Text.Blank name.toList) (present : name ∈ table.names) :
    table.checkName name = .error (.duplicate name) := by
  rw [checkName, if_neg (mt (isBlank_iff name).mp marked),
    if_pos ((table.queries.contains_iff name).mpr present)]

theorem checkName_ok_iff (table : QueryTable α β) (name : String) :
    table.checkName name = .ok () ↔ ¬ Text.Blank name.toList ∧ name ∉ table.names := by
  have listed : table.queries.contains name = true ↔ name ∈ table.names :=
    table.queries.contains_iff name
  rw [checkName, ← listed, ← isBlank_iff]
  cases isBlank name <;> cases table.queries.contains name <;> simp

theorem entries_add (fresh : query.name ∉ table.names) :
    (table.add query).queries.entries = table.queries.entries ++ [(query.name, query)] :=
  Entries.insert_of_notMem query fresh

theorem declare_ok {after : QueryTable α β}
    (h : (table.declare validator query).result = .ok (next, after)) :
    query.name ∉ table.names ∧ after = table.add query ∧
      next = query.schema.elim validator (validator.addSchema query.name) := by
  rw [declare_result, Sequence.bind_ok_iff] at h
  obtain ⟨_, named, h⟩ := h
  obtain ⟨other, registered, same⟩ := (Sequence.map_ok_iff _ _ _).mp h
  cases same
  exact ⟨((checkName_ok_iff table query.name).mp named).2, rfl, registerSchema_ok registered⟩

end Declare

namespace Shared

variable {start : Validator} {declared : (i : ι) → List (Query (σ i) (ρ i))}
  {shared : Shared ι σ ρ}

/-- What a run has made of tables that were empty at first and of the validator that they share. -/
structure Holds (start : Validator) (declared : (i : ι) → List (Query (σ i) (ρ i)))
    (shared : Shared ι σ ρ) : Prop where
  types : shared.validator.types = start.types
  filters : shared.validator.filters = start.filters
  entries : ∀ i, (shared.tables i).queries.entries =
    (declared i).map fun query => (query.name, query)
  registered : ∀ i, ∀ query ∈ declared i, query.schema.isSome →
    (shared.validator.schema? query.name).isSome

theorem holds_start (validator : Validator) :
    Holds validator (fun _ => []) (⟨validator, fun _ => .empty⟩ : Shared ι σ ρ) := by
  refine ⟨rfl, rfl, fun _ => rfl, ?_⟩
  intro i query member
  cases member

theorem Holds.names_eq (holds : Holds start declared shared) (i : ι) :
    (shared.tables i).names = (declared i).map Query.name := by
  change Entries.keys (shared.tables i).queries.entries = _
  rw [holds.entries, Entries.keys, List.map_map]
  rfl

theorem Holds.registerSchema (holds : Holds start declared shared) (name : String)
    (schema : Schema) :
    Holds start declared
      { shared with validator := shared.validator.addSchema name schema } := by
  refine ⟨holds.types, holds.filters, holds.entries, ?_⟩
  intro i query member given
  exact Validator.schema?_addSchema (holds.registered i query member given) name schema

end Shared

variable [DecidableEq ι]

namespace Action

def change : Action ι σ ρ → Changing ι σ ρ Unit
  | .declare i query => Changing.declare i query
  | .registerSchema name schema => Changing.registerSchema name schema

def queryIn (i : ι) : Action ι σ ρ → Option (Query (σ i) (ρ i))
  | .declare j query => if h : j = i then some (h ▸ query) else none
  | .registerSchema _ _ => none

end Action

namespace Shared

def perform (shared : Shared ι σ ρ) (action : Action ι σ ρ) :
    Except QueryError Unit × Shared ι σ ρ := action.change.on shared

def performAll (shared : Shared ι σ ρ) (actions : List (Action ι σ ρ)) : Shared ι σ ρ :=
  actions.foldl (fun shared action => (shared.perform action).2) shared

/-- The queries of a table whose declarations go through, in their order. -/
def taken (i : ι) (shared : Shared ι σ ρ) : List (Action ι σ ρ) → List (Query (σ i) (ρ i))
  | [] => []
  | action :: rest =>
    (match (shared.perform action).1 with
      | .ok _ => (action.queryIn i).toList
      | .error _ => []) ++ taken i (shared.perform action).2 rest

variable {shared : Shared ι σ ρ} {start : Validator}
  {declared : (i : ι) → List (Query (σ i) (ρ i))}

theorem perform_error {action : Action ι σ ρ} {error : QueryError}
    (h : (shared.perform action).1 = .error error) : (shared.perform action).2 = shared := by
  cases action with
  | declare i query =>
    rw [perform, Action.change, Changing.declare_on] at h ⊢
    cases outcome : ((shared.tables i).declare shared.validator query).result with
    | ok next =>
      rw [outcome] at h
      cases h
    | error _ => rfl
  | registerSchema name schema =>
    rw [perform, Action.change, Changing.registerSchema_on] at h ⊢
    cases outcome : (shared.validator.registerSchema name schema).result with
    | ok next =>
      rw [outcome] at h
      cases h
    | error _ => rfl

theorem perform_declare_ok {i : ι} {query : Query (σ i) (ρ i)}
    (h : (shared.perform (.declare i query)).1 = .ok ()) :
    query.name ∉ (shared.tables i).names ∧
      (shared.perform (.declare i query)).2 =
        { validator := query.schema.elim shared.validator (shared.validator.addSchema query.name)
          tables := Function.update shared.tables i ((shared.tables i).add query) } := by
  rw [perform, Action.change, Changing.declare_on] at h ⊢
  cases outcome : ((shared.tables i).declare shared.validator query).result with
  | error error =>
    rw [outcome] at h
    cases h
  | ok next =>
    obtain ⟨validator, table⟩ := next
    obtain ⟨fresh, rfl, rfl⟩ := declare_ok outcome
    exact ⟨fresh, rfl⟩

/-- A name of its own and a schema that the validator takes in are all that a declaration needs. -/
theorem perform_declare_of_fresh {i : ι} {query : Query (σ i) (ρ i)}
    (marked : ¬ Text.Blank query.name.toList) (fresh : query.name ∉ (shared.tables i).names)
    (registers : ∀ schema, query.schema = some schema →
      ∃ next, (shared.validator.registerSchema query.name schema).result = .ok next) :
    (shared.perform (.declare i query)).1 = .ok () := by
  have checked := (checkName_ok_iff (shared.tables i) query.name).mpr ⟨marked, fresh⟩
  rw [perform, Action.change, Changing.declare_on, declare_result, checked]
  cases given : query.schema with
  | none => rfl
  | some schema =>
    obtain ⟨next, taken⟩ := registers schema given
    simp only [QueryTable.registerSchema, Traced.result_mapError, taken]
    rfl

theorem perform_registerSchema_ok {name : String} {schema : Schema}
    (h : (shared.perform (.registerSchema name schema)).1 = .ok ()) :
    (shared.perform (.registerSchema name schema)).2 =
      { shared with validator := shared.validator.addSchema name schema } := by
  rw [perform, Action.change, Changing.registerSchema_on] at h ⊢
  cases outcome : (shared.validator.registerSchema name schema).result with
  | error error =>
    rw [outcome] at h
    cases h
  | ok next =>
    obtain ⟨-, rfl⟩ := (Validator.registerSchema_ok_iff next).mp outcome
    rfl

theorem Holds.declare (holds : Holds start declared shared) {i : ι} {query : Query (σ i) (ρ i)}
    (fresh : query.name ∉ (shared.tables i).names) :
    Holds start (fun j => declared j ++ ((Action.declare i query).queryIn j).toList)
      { validator := query.schema.elim shared.validator (shared.validator.addSchema query.name)
        tables := Function.update shared.tables i ((shared.tables i).add query) } := by
  have kept : ∀ name, (shared.validator.schema? name).isSome →
      ((query.schema.elim shared.validator (shared.validator.addSchema query.name)).schema?
        name).isSome := by
    intro name known
    cases query.schema with
    | none => exact known
    | some schema => exact Validator.schema?_addSchema known query.name schema
  refine ⟨?_, ?_, ?_, ?_⟩
  · rw [← holds.types]
    cases query.schema <;> rfl
  · rw [← holds.filters]
    cases query.schema <;> rfl
  · intro j
    by_cases here : i = j
    · subst here
      simp only [Function.update_self, Action.queryIn, dif_pos, Option.toList_some]
      rw [entries_add fresh, holds.entries, List.map_append]
      rfl
    · simp only [Function.update_of_ne (Ne.symm here), Action.queryIn, dif_neg here,
        Option.toList_none, List.append_nil]
      exact holds.entries j
  · intro j other member schema
    rcases List.mem_append.mp member with old | new
    · exact kept other.name (holds.registered j other old schema)
    · by_cases here : i = j
      · subst here
        simp only [Action.queryIn, dif_pos, Option.toList_some, List.mem_singleton] at new
        subst new
        obtain ⟨schema, given⟩ := Option.isSome_iff_exists.mp schema
        rw [given, Option.elim_some, Validator.schema?_addSchema_self]
        rfl
      · simp [Action.queryIn, here] at new

theorem Holds.perform (holds : Holds start declared shared) (action : Action ι σ ρ) :
    Holds start
      (fun i => declared i ++ match (shared.perform action).1 with
        | .ok _ => (action.queryIn i).toList
        | .error _ => [])
      (shared.perform action).2 := by
  cases outcome : (shared.perform action).1 with
  | error error =>
    rw [perform_error outcome]
    simpa using holds
  | ok _ =>
    cases action with
    | declare i query =>
      obtain ⟨fresh, reached⟩ := perform_declare_ok outcome
      rw [reached]
      exact holds.declare fresh
    | registerSchema name schema =>
      rw [perform_registerSchema_ok outcome]
      simpa [Action.queryIn] using holds.registerSchema name schema

theorem Holds.performAll (holds : Holds start declared shared) (actions : List (Action ι σ ρ)) :
    Holds start (fun i => declared i ++ taken i shared actions) (shared.performAll actions) := by
  induction actions generalizing shared declared with
  | nil => simpa [taken, Shared.performAll] using holds
  | cons action rest ih =>
    have reached := ih (holds.perform action)
    simp only [List.append_assoc] at reached
    exact reached

end Shared

section Calls

variable {α β : Type} {table : QueryTable α β} {declared : List (Query α β)}

theorem get?_of_entries (entries : table.queries.entries =
      declared.map fun query => (query.name, query)) {query : Query α β} (member : query ∈ declared) :
    table.get? query.name = some query := by
  have inside : (query.name, query) ∈ table.queries.entries := by
    rw [entries]
    exact List.mem_map_of_mem member
  exact Entries.lookup_of_mem table.queries.distinct inside

theorem call_result (validator : Validator) (scope : α) (given : Value) {query : Query α β}
    (found : table.get? query.name = some query) :
    (table.call validator scope query.name given).result =
      ((validator.validate query.name query.effectiveSchema given).result.mapError
        .arguments).bind fun arguments =>
          (query.body scope arguments).mapError (.failed query.name) := by
  rw [call, found]
  simp only [Traced.result_bind, Traced.result_mapError, Traced.result_emit,
    Traced.result_ofExcept, Except.bind]
  rfl

theorem call_ne_unknown (validator : Validator) (scope : α) (given : Value) {query : Query α β}
    (found : table.get? query.name = some query) (sought : String) :
    (table.call validator scope query.name given).result ≠ .error (.unknown sought) := by
  rw [call_result validator scope given found]
  cases (validator.validate query.name query.effectiveSchema given).result with
  | error error => simp [Except.mapError, Except.bind]
  | ok arguments =>
    cases answer : query.body scope arguments <;> simp [Except.mapError, Except.bind, answer]

theorem call_unknown_iff (entries : table.queries.entries =
      declared.map fun query => (query.name, query)) (validator : Validator) (scope : α)
    (name : String) (given : Value) :
    (table.call validator scope name given).result = .error (.unknown name) ↔
      ∀ query ∈ declared, query.name ≠ name := by
  constructor
  · rintro unknown query member rfl
    exact call_ne_unknown validator scope given (get?_of_entries entries member) _ unknown
  · intro absent
    have missing : table.get? name = none := by
      refine (Entries.lookup_eq_none name _).mpr ?_
      rw [entries, Entries.keys, List.map_map]
      intro present
      obtain ⟨query, member, same⟩ := List.mem_map.mp present
      exact absent query member same
    rw [call, missing]
    rfl

end Calls

/-- The state after any run: what it has changed, what the next declaration does to it, and how its
queries are called. -/
theorem performAll_calls (validator : Validator) (actions : List (Action ι σ ρ)) :
    let start : Shared ι σ ρ := ⟨validator, fun _ => .empty⟩
    let reached := start.performAll actions
    (∀ i (query : Query (σ i) (ρ i)),
      (Text.Blank query.name.toList →
        reached.perform (.declare i query) = (.error .blankName, reached)) ∧
      (¬ Text.Blank query.name.toList → query.name ∈ (reached.tables i).names →
        reached.perform (.declare i query) = (.error (.duplicate query.name), reached)) ∧
      (¬ Text.Blank query.name.toList → query.name ∉ (reached.tables i).names →
        (∀ schema, query.schema = some schema →
          ∃ next, (reached.validator.registerSchema query.name schema).result = .ok next) →
        (reached.perform (.declare i query)).1 = .ok ()) ∧
      ((∃ error, reached.perform (.declare i query) = (.error error, reached)) ∨
        ∃ after, reached.perform (.declare i query) = (.ok (), after) ∧
          query.name ∉ (reached.tables i).names ∧
          (after.tables i).queries.entries =
            (reached.tables i).queries.entries ++ [(query.name, query)] ∧
          (∀ j, j ≠ i → after.tables j = reached.tables j) ∧
          after.validator =
            query.schema.elim reached.validator (reached.validator.addSchema query.name))) ∧
    (∀ i, (reached.tables i).queries.values = start.taken i actions ∧
      (reached.tables i).names = (start.taken i actions).map Query.name ∧
      (reached.tables i).names.Nodup) ∧
    (∀ i, ∀ query ∈ start.taken i actions, query.schema.isSome →
      (reached.validator.schema? query.name).isSome) ∧
    ∀ i scope name given,
      (((reached.tables i).call reached.validator scope name given).result =
          .error (.unknown name) ↔ ∀ query ∈ start.taken i actions, query.name ≠ name) ∧
      ∀ query ∈ start.taken i actions, query.name = name →
        ((reached.tables i).call reached.validator scope name given).result =
          ((Validation.validate validator.types validator.filters name
            (query.schema.getD .empty) given).result.mapError .arguments).bind fun arguments =>
              (query.body scope arguments).mapError (.failed name) := by
  intro start reached
  have holds : Shared.Holds validator (fun i => start.taken i actions) reached := by
    simpa using (Shared.holds_start validator).performAll actions
  refine ⟨?_, ?_, holds.registered, ?_⟩
  · intro i query
    refine ⟨?_, ?_, Shared.perform_declare_of_fresh, ?_⟩
    · intro blank
      rw [Shared.perform, Action.change, Changing.declare_on, declare_result,
        checkName_of_blank (reached.tables i) blank]
      rfl
    · intro marked present
      rw [Shared.perform, Action.change, Changing.declare_on, declare_result,
        checkName_of_mem marked present]
      rfl
    · cases outcome : (reached.perform (.declare i query)).1 with
      | error error => exact .inl ⟨error, Prod.ext outcome (Shared.perform_error outcome)⟩
      | ok _ =>
        obtain ⟨fresh, changed⟩ := Shared.perform_declare_ok outcome
        refine .inr ⟨_, Prod.ext outcome changed, fresh, ?_, ?_, rfl⟩
        · simp only [Function.update_self]
          exact entries_add fresh
        · intro j other
          exact Function.update_of_ne other _ _
  · intro i
    have values : (reached.tables i).queries.values = start.taken i actions := by
      rw [Table.values, holds.entries, List.map_map]
      exact List.map_id _
    exact ⟨values, holds.names_eq i, (reached.tables i).queries.distinct⟩
  · intro i scope name given
    refine ⟨call_unknown_iff (holds.entries i) reached.validator scope name given, ?_⟩
    rintro query member rfl
    have found := get?_of_entries (holds.entries i) member
    rw [call_result _ _ _ found, Validator.validate, holds.types, holds.filters]
    rfl

def search : Query Unit Nat :=
  .make "search" "" (some Validation.order) fun _ arguments => .ok arguments.length

def greeting : Query Unit Nat := .make "search" "" none fun _ _ => .error "nobody is there"

/-- Two tables declare a query of one name each, and its schema is replaced afterwards. -/
def declarations : List (Action Bool (fun _ => Unit) fun _ => Nat) :=
  [.declare true search, .declare false greeting, .registerSchema "search" .empty]

theorem taken_declarations :
    let start : Shared Bool (fun _ => Unit) fun _ => Nat :=
      ⟨⟨.empty, .standard, .empty⟩, fun _ => .empty⟩
    start.taken true declarations = [search] ∧ start.taken false declarations = [greeting] := by
  intro start
  have registers : ∀ schema, search.schema = some schema →
      ∃ next, (start.validator.registerSchema search.name schema).result = .ok next := by
    intro schema given
    cases given
    exact ⟨_, (Validator.registerSchema_ok_iff _).mpr
      ⟨⟨Schema.conflicts_eq_nil_iff.mp rfl, Validation.order_builds⟩, rfl⟩⟩
  have first : (start.perform (.declare true search)).1 = .ok () :=
    Shared.perform_declare_of_fresh (by decide) (by decide) registers
  have second : ((start.perform (.declare true search)).2.perform
      (.declare false greeting)).1 = .ok () := by
    rw [(Shared.perform_declare_ok first).2]
    exact Shared.perform_declare_of_fresh (by decide) (by decide) (by simp [greeting, Query.make])
  constructor
  · simp only [declarations, Shared.taken, first, second]
    rfl
  · simp only [declarations, Shared.taken, first, second]
    rfl

theorem performAll_calls_declarations :
    let start : Shared Bool (fun _ => Unit) fun _ => Nat :=
      ⟨⟨.empty, .standard, .empty⟩, fun _ => .empty⟩
    let reached := start.performAll declarations
    reached.perform (.declare false search) = (.error (.duplicate "search"), reached) ∧
      ((reached.tables true).call reached.validator () "search" .null).result =
        .error (.arguments (.callShape "search" ["count", "unit", "note", "label"])) ∧
      ((reached.tables false).call reached.validator () "search" (.map [])).result =
        .error (.failed "search" "nobody is there") ∧
      ((reached.tables false).call reached.validator () "find" .null).result =
        .error (.unknown "find") := by
  intro start reached
  obtain ⟨declares, lists, -, calls⟩ := performAll_calls ⟨.empty, .standard, .empty⟩ declarations
  obtain ⟨takenTrue, takenFalse⟩ := taken_declarations
  have names : (reached.tables false).names = ["search"] := by
    rw [(lists false).2.1, takenFalse]
    rfl
  refine ⟨?_, ?_, ?_, ?_⟩
  · exact (declares false search).2.1 (by decide) (by rw [names]; decide)
  · exact (calls true () "search" .null).2 search (by rw [takenTrue]; simp) rfl
  · exact (calls false () "search" (.map [])).2 greeting (by rw [takenFalse]; simp) rfl
  · exact (calls false () "find" .null).1.mpr (by rw [takenFalse]; decide)

end ArgCheck.QueryTable
