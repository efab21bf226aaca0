import ArgCheck.Proofs.Validator.Accounts
import ArgCheck.Proofs.Validator.Calls

set_option autoImplicit false

/-!
# What is warned of

Each operation on the tables of a validator makes changes to what they hold. It warns of each
registration that one of its changes replaces, at once and in the order of the changes, and of nothing
else (`operateAll_warnings`); only the factories of custom filters may add warnings of their own, while a
schema is checked.
-/

namespace ArgCheck.Validator

open Holdings

inductive Operation where
  | types (action : TypeTable.Action)
  | filters (entry : FilterTable.Registration)
  | schema (name : String) (declared : Schema)

namespace Operation

def run (validator : Validator) : Operation → Traced ArgumentError Validator
  | types action => (fun types => { validator with types }) <$> validator.types.perform action
  | filters entry =>
    (fun filters => { validator with filters }) <$>
      validator.filters.register entry.tag entry.kind entry.ids
  | schema name declared => validator.registerSchema name declared

/-- What the operation puts into slots and removes from them, in its order; a schema that is refused
changes nothing. -/
def changes (validator : Validator) : Operation → List Change
  | types (.unregister t) =>
    [.clear (.validator t.key), .clear (.coercer t.key), .clear (.handler t.key)]
  | types action => registrationChanges action.registrations
  | filters entry =>
    entry.ids.map (fun t => .put (.filterId t.key entry.kind)) ++
      [.put (.filterTag entry.tag entry.kind)]
  | schema name declared =>
    match (validator.registerSchema name declared).result with
    | .ok _ => [.put (.schema name declared)]
    | .error _ => []

def building (validator : Validator) : Operation → List Event
  | schema _ declared =>
    if declared.conflicts = [] then (Validation.buildSlots validator.filters declared.entries).events
    else []
  | _ => []

def told (validator : Validator) (operation : Operation) : List Event :=
  (operation.run validator).events.drop (operation.building validator).length

end Operation

/-- The validator after an operation, which leaves it as it was if it fails. -/
def operate (validator : Validator) (operation : Operation) : Validator :=
  match (operation.run validator).result with
  | .ok next => next
  | .error _ => validator

theorem events_registerSchema (validator : Validator) (name : String) (schema : Schema) :
    (validator.registerSchema name schema).events =
      (Operation.schema name schema).building validator ++
        match (validator.registerSchema name schema).result with
        | .ok _ => validator.registrationEvents name schema
        | .error _ => [] := by
  by_cases conflicting : schema.conflicts = []
  · have passed : checkSchema name schema = .ok () := by
      rw [checkSchema, if_pos (by simpa using conflicting)]
    rw [Operation.building, if_pos conflicting]
    simp only [registerSchema, passed, Traced.events_bind, Traced.result_bind,
      Traced.result_ofExcept, Except.bind]
    cases (Validation.buildSlots validator.filters schema.entries).result with
    | error error => exact (List.append_nil _).symm
    | ok slots => rfl
  · rw [registerSchema_of_conflicts conflicting, Operation.building, if_neg conflicting]
    rfl

theorem Operation.events_run (validator : Validator) (operation : Operation) :
    (operation.run validator).events =
      operation.building validator ++ operation.told validator := by
  cases operation with
  | types action => rfl
  | filters entry => rfl
  | schema name declared =>
    rw [Operation.told, Operation.run, events_registerSchema, List.drop_left]

theorem told_schema (validator : Validator) (name : String) (schema : Schema) :
    (Operation.schema name schema).told validator =
      match (validator.registerSchema name schema).result with
      | .ok _ => validator.registrationEvents name schema
      | .error _ => [] := by
  rw [Operation.told, Operation.run, events_registerSchema, List.drop_left]

theorem operate_types (validator : Validator) (action : TypeTable.Action) :
    validator.operate (.types action) =
      { validator with types := validator.types.next action } := by
  rw [operate, Operation.run, Traced.result_map, TypeTable.perform_result]
  rfl

theorem told_types (validator : Validator) (action : TypeTable.Action) :
    (Operation.types action).told validator =
      (validator.types.perform action : Traced ArgumentError TypeTable).events := by
  rw [Operation.told, Operation.run, Traced.events_map]
  rfl

theorem accounts_operate (validator : Validator) (operation : Operation) :
    Accounts validator.holdings (operation.changes validator) (operation.told validator)
      (validator.operate operation).holdings := by
  cases operation with
  | types action =>
    rw [operate_types, told_types]
    cases action with
    | register t forms =>
      have here := validator.accounts_add t forms
      rwa [← List.append_nil (formChanges t.key forms)] at here
    | unregister t =>
      rw [TypeTable.perform, Traced.events_map]
      exact validator.accounts_unregister t
    | registerBuiltins => exact validator.accounts_registerHandlers TypeHandler.builtins
  | filters entry =>
    rw [Operation.told, Operation.run, Traced.events_map]
    exact validator.accounts_enter entry
  | schema name declared =>
    rw [told_schema, Operation.changes, operate, Operation.run]
    cases outcome : (validator.registerSchema name declared).result with
    | ok next =>
      rw [((registerSchema_ok_iff next).mp outcome).2]
      exact validator.accounts_addSchema name declared
    | error error => exact accounts_silent rfl

section Runs

variable {α : Type}

def operateAll (validator : Validator) (operations : List Operation) : Validator :=
  operations.foldl operate validator

/-- What is told at each operation of a run, one after the other. -/
def gather (tell : Validator → Operation → List α) (validator : Validator) :
    List Operation → List α
  | [] => []
  | operation :: rest => tell validator operation ++ gather tell (validator.operate operation) rest

def log (validator : Validator) (operations : List Operation) : List Event :=
  validator.gather (fun reached operation => (operation.run reached).events) operations

theorem accounts_operateAll (validator : Validator) (operations : List Operation) :
    Accounts validator.holdings (validator.gather Operation.changes operations)
      (validator.gather Operation.told operations) (validator.operateAll operations).holdings := by
  induction operations generalizing validator with
  | nil => exact accounts_silent rfl
  | cons operation rest ih =>
    exact (validator.accounts_operate operation).append (ih (validator.operate operation))

end Runs

def Operation.Quiet : Operation → Prop
  | filters entry => entry.kind.Quiet
  | _ => True

section Quiet

variable {validator : Validator}

theorem quiet_operate (quiet : validator.filters.Quiet) {operation : Operation}
    (h : operation.Quiet) : (validator.operate operation).filters.Quiet := by
  cases operation with
  | types action =>
    rw [operate_types]
    exact quiet
  | filters entry => exact quiet.add h entry.tag entry.ids
  | schema name declared =>
    change (validator.attempt (name, declared)).filters.Quiet
    rw [(validator.attempt_tables (name, declared)).2]
    exact quiet

theorem building_quiet (quiet : validator.filters.Quiet) (operation : Operation) :
    Event.warnings (operation.building validator) = [] := by
  cases operation with
  | types action => rfl
  | filters entry => rfl
  | schema name declared =>
    rw [Operation.building]
    split
    · exact quiet.buildSlots declared.entries
    · rfl

/-- Without factories that warn, the operations themselves are all that warns. -/
theorem warnings_log (quiet : validator.filters.Quiet) {operations : List Operation}
    (h : ∀ operation ∈ operations, operation.Quiet) :
    Event.warnings (validator.log operations) =
      Event.warnings (validator.gather Operation.told operations) := by
  induction operations generalizing validator with
  | nil => rfl
  | cons operation rest ih =>
    obtain ⟨here, later⟩ := List.forall_mem_cons.mp h
    have rest := ih (quiet_operate quiet here) later
    rw [log, gather, gather, Event.warnings_append, Event.warnings_append, operation.events_run,
      Event.warnings_append, building_quiet quiet, List.nil_append]
    exact congrArg _ rest

end Quiet

/-- The operations that overwrite nothing: those that fail or are empty, those that only remove, and those
that register for the first time all that they register. -/
inductive Operation.Harmless (validator : Validator) : Operation → Prop where
  | refused (name : String) (declared : Schema) (error : ArgumentError)
      (fails : (validator.registerSchema name declared).result = .error error) :
      Harmless validator (.schema name declared)
  | empty (t : TypeId) (forms : TypeForms) (nothing : forms.isEmpty = true) :
      Harmless validator (.types (.register t forms))
  | unregister (t : TypeId) : Harmless validator (.types (.unregister t))
  | first (operation : Operation) (fresh : List Holding)
      (puts : operation.changes validator = fresh.map .put)
      (distinct : (fresh.map Holding.slot).Nodup)
      (vacant : ∀ holding ∈ fresh, validator.holdings holding.slot = none) :
      Harmless validator operation

theorem Operation.Harmless.silent {validator : Validator} {operation : Operation}
    (harmless : operation.Harmless validator) : Event.warnings (operation.told validator) = [] := by
  cases harmless with
  | refused name declared error fails =>
    rw [told_schema, fails]
    rfl
  | empty t forms nothing =>
    rw [told_types, TypeTable.perform, TypeTable.register, TypeTable.registrationEvents, if_pos nothing]
    rfl
  | unregister t =>
    rw [told_types, TypeTable.perform, Traced.events_map]
    exact warnings_unregister validator.types t
  | first _ fresh puts distinct vacant =>
    rw [(validator.accounts_operate operation).warnings, departures_vacant puts distinct vacant]
    rfl

/-- Each registration that is overwritten is warned of by the operation that overwrites it, and nothing else
is. What a slot held and was given is, in this order, what it lost and what it holds in the end. -/
theorem operateAll_warnings (start : Validator) (operations : List Operation) :
    let reached := start.operateAll operations
    let changes := start.gather Operation.changes operations
    let lost := departures start.holdings changes
    reached.holdings = changes.foldl after start.holdings ∧
      (∀ slot, (start.holdings slot).toList ++ changes.filterMap (Change.into slot) =
        (lost.map Departure.holding).filter (fun old => old.slot = slot) ++
          (reached.holdings slot).toList) ∧
      Event.warnings (start.gather Operation.told operations) =
        lost.filterMap Departure.warning? ∧
      (Event.warnings (start.gather Operation.told operations)).length =
        lost.countP (fun departure => departure.successor.isSome) ∧
      (start.filters.Quiet → (∀ operation ∈ operations, operation.Quiet) →
        Event.warnings (start.log operations) = lost.filterMap Departure.warning?) ∧
      ∀ operation : Operation,
        (operation.run reached).events = operation.building reached ++ operation.told reached ∧
        Event.warnings (operation.told reached) =
          (departures reached.holdings (operation.changes reached)).filterMap Departure.warning? ∧
        (reached.filters.Quiet → Event.warnings (operation.building reached) = []) ∧
        (operation.Harmless reached → Event.warnings (operation.told reached) = []) := by
  intro reached changes lost
  have accounts := start.accounts_operateAll operations
  refine ⟨accounts.holdings, ?_, accounts.warnings, ?_, ?_, ?_⟩
  · intro slot
    rw [accounts.holdings]
    exact departures_conserve start.placed_holdings changes slot
  · rw [accounts.warnings, List.length_filterMap_eq_countP]
    exact List.countP_congr fun departure _ => by rw [Departure.warning?, Option.isSome_map]
  · intro quiet h
    rw [warnings_log quiet h]
    exact accounts.warnings
  · intro operation
    exact ⟨operation.events_run reached, (reached.accounts_operate operation).warnings,
      fun quiet => building_quiet quiet operation, fun harmless => harmless.silent⟩

/-- A schema comes twice and then one of its name that is refused, the builtin handlers come around the
removal of one of them, and a filter has an identifier twice. -/
def repeated : List Operation :=
  [.schema "order" Validation.order, .schema "order" Validation.order, .schema "order" torn,
    .types .registerBuiltins, .types (.unregister (.builtin .integer)), .types .registerBuiltins,
    .filters ⟨"amount", .builtin .integer, [.builtin .integer, .builtin .integer]⟩]

theorem registerSchema_order (validator : Validator) (standard : validator.filters = .standard) :
    (validator.registerSchema "order" Validation.order).result =
      .ok (validator.addSchema "order" Validation.order) := by
  refine (registerSchema_ok_iff _).mpr ⟨⟨Schema.conflicts_eq_nil_iff.mp rfl, ?_⟩, rfl⟩
  rw [standard]
  exact Validation.order_builds

theorem operateAll_warnings_repeated :
    let start : Validator := ⟨.empty, .standard, .empty⟩
    start.filters.Quiet ∧ (∀ operation ∈ repeated, operation.Quiet) ∧
      (Event.warnings (start.log repeated)).map (fun event => (event.message, event.fields)) =
        [("replacing registered argument schema", [("schema", "order")]),
          ("replacing registered type handler", [("type_id", "String")]),
          ("replacing registered type handler", [("type_id", "Float")]),
          ("replacing registered type handler", [("type_id", "Boolean")]),
          ("replacing filter for type identifier", [("type_id", "Integer"), ("kind", "integer")]),
          ("replacing filter for type identifier", [("type_id", "Integer"), ("kind", "integer")])] ∧
      (Operation.schema "order" torn).Harmless (start.operateAll repeated) ∧
      Event.warnings ((Operation.schema "order" torn).told (start.operateAll repeated)) = [] := by
  intro start
  have quiet : start.filters.Quiet := FilterTable.customFree_standard.quiet
  have plain : ∀ operation ∈ repeated, operation.Quiet := by
    simp [repeated, Operation.Quiet, FilterKind.Quiet]
  have refused (validator : Validator) : (validator.registerSchema "order" torn).result =
      .error (.schemaDefinition "order" torn.conflicts) := by
    rw [registerSchema_of_conflicts (by decide)]
    rfl
  obtain ⟨-, -, -, -, all, each⟩ := operateAll_warnings start repeated
  obtain ⟨-, -, -, spared⟩ := each (.schema "order" torn)
  have harmless := Operation.Harmless.refused "order" torn _ (refused (start.operateAll repeated))
  refine ⟨quiet, plain, ?_, harmless, spared harmless⟩
  have changes : start.gather Operation.changes repeated =
      [.put (.schema "order" Validation.order), .put (.schema "order" Validation.order)] ++
        registrationChanges (TypeTable.Action.registrations .registerBuiltins) ++
        [.clear (.validator (.builtin .integer)), .clear (.coercer (.builtin .integer)),
          .clear (.handler (.builtin .integer))] ++
        registrationChanges (TypeTable.Action.registrations .registerBuiltins) ++
        [.put (.filterId (.builtin .integer) (.builtin .integer)),
          .put (.filterId (.builtin .integer) (.builtin .integer)),
          .put (.filterTag "amount" (.builtin .integer))] := by
    have first := registerSchema_order start rfl
    have second := registerSchema_order (start.addSchema "order" Validation.order) rfl
    simp only [repeated, gather, operate, Operation.changes, Operation.run, first, second, refused]
    rfl
  rw [all quiet plain, changes]
  rfl

end ArgCheck.Validator
