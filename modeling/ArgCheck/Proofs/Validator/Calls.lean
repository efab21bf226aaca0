import ArgCheck.Proofs.TypeTable.History
import ArgCheck.Proofs.Validator.Registration

set_option autoImplicit false

/-!
# Calls under a registered name

A schema is registered only if its filters can be built, and building does not look at the table of
types. So whatever is registered later, and whatever comes in and goes out of the table of types, a
call under the name fails over the arguments that it gives and not over what was declared
(`Checked.validateRegistered_error_kind`).
-/

namespace ArgCheck

namespace ErrorKind

def ofDeclaration : List ErrorKind :=
  [.schemaDefinition, .unknownSchema, .unknownFilterType, .invalidFilterType]

def ofCall : List ErrorKind :=
  [.invalidCallShape, .missingArguments, .unknownArguments, .invalidArgumentType, .entityNotFound,
    .unresolvableEntityClass, .entityStore]

theorem mem_ofCall_of_ofProcessing {kind : ErrorKind} (h : kind ∈ ofProcessing) :
    kind ∈ ofCall := by
  revert kind
  decide

theorem notMem_ofDeclaration {kind : ErrorKind} (h : kind ∈ ofCall) : kind ∉ ofDeclaration := by
  revert kind
  decide

end ErrorKind

def Schema.Builds (schema : Schema) (filters : FilterTable) : Prop :=
  ∀ entry ∈ schema.entries, ∃ filter, (filters.build entry.1 entry.2.options).result = .ok filter

theorem Validation.validate_error_kind {types : TypeTable} {filters : FilterTable}
    (plain : filters.CustomFree) {schema : Schema} (builds : schema.Builds filters) {name : String}
    {given : Value} {error : ArgumentError}
    (fails : (validate types filters name schema given).result = .error error) :
    error.kind ∈ ErrorKind.ofCall := by
  cases given with
  | map given =>
    obtain ⟨slots, filtersBuilt⟩ := mapM_slotOf_ok builds
    rw [validate_map_result, filtersBuilt, checkNames_withDefaults] at fails
    by_cases missing : lacking schema given ≠ []
    · rw [if_pos missing] at fails
      cases fails
      simp [ErrorKind.ofCall, ArgumentError.kind]
    · by_cases unknown : foreign schema given ≠ []
      · rw [if_neg missing, if_pos unknown] at fails
        cases fails
        simp [ErrorKind.ofCall, ArgumentError.kind]
      · rw [if_neg missing, if_neg unknown] at fails
        have kind := normalizeSlots_error_kind plain filtersBuilt fails
        exact ErrorKind.mem_ofCall_of_ofProcessing kind
  | _ =>
    cases fails
    simp [ErrorKind.ofCall, ArgumentError.kind]

namespace Validator

inductive Action where
  | registerSchema (name : String) (schema : Schema)
  | types (action : TypeTable.Action)

def perform (validator : Validator) : Action → Validator
  | .registerSchema name schema => validator.attempt (name, schema)
  | .types action => { validator with types := validator.types.next action }

def performAll (validator : Validator) (actions : List Action) : Validator :=
  actions.foldl perform validator

/-- What is registered has been checked against the filters, which are the ones of the start. -/
structure Checked (filters : FilterTable) (validator : Validator) : Prop where
  same : validator.filters = filters
  builds : ∀ schema ∈ validator.schemas.values, schema.Builds filters

variable {filters : FilterTable} {validator : Validator} {name : String} {schema : Schema}

theorem attempt_of_ok {next : Validator}
    (taken : (validator.registerSchema name schema).result = .ok next) :
    validator.attempt (name, schema) = validator.addSchema name schema := by
  rw [attempt, taken]
  exact ((registerSchema_ok_iff next).mp taken).2

theorem schema?_addSchema_self (validator : Validator) (name : String) (schema : Schema) :
    (validator.addSchema name schema).schema? name = some schema := by
  rw [schema?, addSchema, Table.get?_insert, if_pos rfl]

/-- Taking a schema in takes no name out. -/
theorem schema?_addSchema (known : (validator.schema? name).isSome) (other : String)
    (schema : Schema) : ((validator.addSchema other schema).schema? name).isSome := by
  rw [schema?, addSchema, Table.get?_insert]
  split
  · rfl
  · exact known

theorem Checked.attempt (checked : validator.Checked filters) (call : String × Schema) :
    (validator.attempt call).Checked filters := by
  cases outcome : (validator.registerSchema call.1 call.2).result with
  | error error =>
    rw [Validator.attempt, outcome]
    exact checked
  | ok next =>
    obtain ⟨-, builds⟩ := ((registerSchema_ok_iff next).mp outcome).1
    rw [attempt_of_ok outcome]
    refine ⟨checked.same, ?_⟩
    intro other member
    rcases Table.mem_values_insert member with rfl | old
    · rw [← checked.same]
      exact builds
    · exact checked.builds other old

theorem Checked.perform (checked : validator.Checked filters) (action : Action) :
    (validator.perform action).Checked filters := by
  cases action with
  | registerSchema name schema => exact checked.attempt (name, schema)
  | types action => exact ⟨checked.same, checked.builds⟩

theorem Checked.performAll (checked : validator.Checked filters) (actions : List Action) :
    (validator.performAll actions).Checked filters :=
  List.foldlRecOn actions Validator.perform checked fun _ kept action _ => kept.perform action

theorem checked_empty (types : TypeTable) (filters : FilterTable) :
    (Validator.mk types filters .empty).Checked filters := by
  refine ⟨rfl, ?_⟩
  intro schema member
  cases member

theorem schema?_perform (known : (validator.schema? name).isSome) (action : Action) :
    ((validator.perform action).schema? name).isSome := by
  cases action with
  | registerSchema other schema =>
    cases outcome : (validator.registerSchema other schema).result with
    | error error => rwa [perform, attempt, outcome]
    | ok next =>
      rw [perform, attempt_of_ok outcome]
      exact schema?_addSchema known other schema
  | types action => exact known

theorem schema?_performAll (known : (validator.schema? name).isSome) (actions : List Action) :
    ((validator.performAll actions).schema? name).isSome :=
  List.foldlRecOn actions perform (motive := fun validator => (validator.schema? name).isSome) known
    fun _ kept action _ => schema?_perform kept action

theorem Checked.validateRegistered_error_kind (checked : validator.Checked filters)
    (plain : filters.CustomFree) (known : (validator.schema? name).isSome) {given : Value}
    {error : ArgumentError}
    (fails : (validator.validateRegistered name given).result = .error error) :
    error.kind ∈ ErrorKind.ofCall := by
  obtain ⟨schema, found⟩ := Option.isSome_iff_exists.mp known
  have builds := checked.builds schema (Table.mem_values_of_get? found)
  rw [validateRegistered, found] at fails
  rw [← checked.same] at plain builds
  exact Validation.validate_error_kind plain builds fails

/-- A name that was once taken in stays, and no call under it fails over its declaration. -/
theorem registered_calls_error_kind (types : TypeTable) (filters : FilterTable)
    (plain : filters.CustomFree) (before after : List Action) (name : String) (schema : Schema)
    (taken : ∃ next, (((Validator.mk types filters .empty).performAll before).registerSchema name
      schema).result = .ok next)
    (given : Value) (error : ArgumentError)
    (fails : (((Validator.mk types filters .empty).performAll
      (before ++ .registerSchema name schema :: after)).validateRegistered name given).result =
        .error error) :
    error.kind ∈ ErrorKind.ofCall ∧ error.kind ∉ ErrorKind.ofDeclaration := by
  obtain ⟨next, taken⟩ := taken
  have checked := (checked_empty types filters).performAll
    (before ++ .registerSchema name schema :: after)
  have known : (((Validator.mk types filters .empty).performAll
      (before ++ .registerSchema name schema :: after)).schema? name).isSome := by
    rw [performAll, List.foldl_append, List.foldl_cons]
    refine schema?_performAll ?_ after
    change ((((Validator.mk types filters .empty).performAll before).attempt
      (name, schema)).schema? name).isSome
    rw [attempt_of_ok taken, schema?_addSchema_self]
    rfl
  have kind := checked.validateRegistered_error_kind plain known fails
  exact ⟨kind, ErrorKind.notMem_ofDeclaration kind⟩

theorem registered_calls_error_kind_order :
    let run := (Validator.mk .empty .standard .empty).performAll
      [.types .registerBuiltins, .registerSchema "order" Validation.order,
        .types (.unregister (.builtin .integer)), .registerSchema "order" torn]
    (run.validateRegistered "order" .null).result =
        .error (.callShape "order" ["count", "unit", "note", "label"]) ∧
      ErrorKind.invalidCallShape ∉ ErrorKind.ofDeclaration := by
  intro run
  have taken : ∃ next, (((Validator.mk .empty .standard .empty).performAll
      [.types .registerBuiltins]).registerSchema "order" Validation.order).result = .ok next :=
    ⟨_, (registerSchema_ok_iff _).mpr
      ⟨⟨Schema.conflicts_eq_nil_iff.mp rfl, Validation.order_builds⟩, rfl⟩⟩
  have refused : ∀ validator : Validator, validator.attempt ("order", torn) = validator := by
    intro validator
    rw [attempt, registerSchema_of_conflicts (by decide)]
    rfl
  have reached : run.schema? "order" = some Validation.order := by
    obtain ⟨next, taken⟩ := taken
    change ((((((Validator.mk .empty .standard .empty).performAll
      [.types .registerBuiltins]).attempt ("order", Validation.order)).perform
        (.types (.unregister (.builtin .integer)))).attempt ("order", torn)).schema? "order") = _
    rw [refused, attempt_of_ok taken]
    rfl
  have fails : (run.validateRegistered "order" .null).result =
      .error (.callShape "order" ["count", "unit", "note", "label"]) := by
    rw [validateRegistered, reached]
    rfl
  exact ⟨fails, (registered_calls_error_kind .empty .standard FilterTable.customFree_standard
    [.types .registerBuiltins]
    [.types (.unregister (.builtin .integer)), .registerSchema "order" torn]
    "order" Validation.order taken .null _ fails).2⟩

end Validator

end ArgCheck
