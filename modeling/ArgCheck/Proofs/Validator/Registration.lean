import ArgCheck.Proofs.Validation.Refusal
import ArgCheck.Validator

set_option autoImplicit false

/-!
# Registering schemas

A schema is taken in if no argument of it offends and all filters can be built; a refused call
leaves nothing behind. So after any calls the validator knows exactly the schemas of the calls that
went through, the last one of each name, in the order in which the names first came
(`registerAll_history`).
-/

namespace ArgCheck

def Argument.Offends (argument : Argument) : Prop :=
  argument.options.optional = true ∧ ∃ value, argument.options.default = some value ∧ value ≠ .null

theorem Argument.isConflicting_iff (argument : Argument) :
    argument.isConflicting = true ↔ argument.Offends := by
  simp only [isConflicting, isOptional, default?, Offends, Bool.and_eq_true]
  refine and_congr_right fun _ => ?_
  cases argument.options.default with
  | none => simp
  | some value => cases value <;> simp [Option.filter, Value.isNull]

namespace Schema

variable {schema : Schema}

theorem conflicts_sublist (schema : Schema) : schema.conflicts.Sublist schema.names :=
  List.Sublist.map Prod.fst List.filter_sublist

theorem mem_conflicts_iff {entry : String × Argument} (member : entry ∈ schema.entries) :
    entry.1 ∈ schema.conflicts ↔ entry.2.Offends := by
  rw [← Argument.isConflicting_iff]
  constructor
  · intro listed
    obtain ⟨other, found, same⟩ := List.mem_map.mp listed
    obtain ⟨inside, conflicting⟩ := List.mem_filter.mp found
    have declared : schema.get? other.1 = some other.2 := get?_of_mem inside
    rw [same, get?_of_mem member] at declared
    rwa [Option.some.inj declared]
  · intro conflicting
    exact List.mem_map_of_mem (List.mem_filter.mpr ⟨member, conflicting⟩)

theorem conflicts_eq_nil_iff :
    schema.conflicts = [] ↔ ∀ entry ∈ schema.entries, ¬ entry.2.Offends := by
  unfold conflicts
  rw [namesWhere_eq_nil_iff]
  refine forall₂_congr fun entry _ => ?_
  rw [← Argument.isConflicting_iff, Bool.not_eq_true]

end Schema

namespace Validation

variable {types : TypeTable} {filters : FilterTable} {name : String} {schema : Schema}

theorem validate_ne_unknownSchema {given : Value}
    (h : (∀ entries, given ≠ .map entries) ∨ filters.CustomFree) (sought : String) :
    (validate types filters name schema given).result ≠ .error (.unknownSchema sought) := by
  intro fails
  rcases h with other | plain
  · rw [validate_other other] at fails
    cases fails
  · cases given with
    | map given =>
      rw [validate_map_result, Sequence.bind_error_iff] at fails
      rcases fails with unbuilt | ⟨slots, filtersBuilt, fails⟩
      · rw [Sequence.mapM_error_iff, failsFirst_slotOf] at unbuilt
        obtain ⟨_, entry, _, _, _, failing⟩ := unbuilt
        cases plain.build_error_kind failing
      · rw [Sequence.bind_error_iff, checkNames_withDefaults] at fails
        rcases fails with misnamed | ⟨_, _, failing⟩
        · split at misnamed
          · cases misnamed
          · split at misnamed <;> cases misnamed
        · have kind := normalizeSlots_error_kind plain filtersBuilt failing
          simp [ErrorKind.ofProcessing, ArgumentError.kind] at kind
    | _ => cases fails

end Validation

namespace Validator

variable {validator : Validator} {name : String} {schema : Schema}

theorem registerSchema_of_conflicts (h : schema.conflicts ≠ []) :
    validator.registerSchema name schema = .fail (.schemaDefinition name schema.conflicts) := by
  have refused : checkSchema name schema = .error (.schemaDefinition name schema.conflicts) := by
    rw [checkSchema, if_neg (by simpa using h)]
  rw [registerSchema, refused]
  rfl

theorem registerSchema_result (h : schema.conflicts = []) :
    (validator.registerSchema name schema).result =
      (schema.entries.mapM (Validation.slotOf validator.filters)).map
        fun _ => validator.addSchema name schema := by
  have passed : checkSchema name schema = .ok () := by
    rw [checkSchema, if_pos (by simpa using h)]
  rw [registerSchema, passed, ← Validation.buildSlots_result]
  simp only [Traced.result_bind, Traced.result_ofExcept, Except.bind]
  cases (Validation.buildSlots validator.filters schema.entries).result <;> rfl

theorem registerSchema_ok_iff (next : Validator) :
    (validator.registerSchema name schema).result = .ok next ↔
      ((∀ entry ∈ schema.entries, ¬ entry.2.Offends) ∧ ∀ entry ∈ schema.entries,
        ∃ filter, (validator.filters.build entry.1 entry.2.options).result = .ok filter) ∧
      next = validator.addSchema name schema := by
  rw [← Schema.conflicts_eq_nil_iff]
  by_cases conflicting : schema.conflicts = []
  · rw [registerSchema_result conflicting, Sequence.map_ok_iff]
    constructor
    · rintro ⟨slots, filtersBuilt, rfl⟩
      refine ⟨⟨conflicting, ?_⟩, rfl⟩
      intro entry member
      obtain ⟨slot, -, made⟩ := Sequence.result_of_mapM_ok filtersBuilt member
      exact ⟨slot.filter, ((Validation.slotOf_ok_iff _ _).mp made).2.2⟩
    · rintro ⟨⟨-, builds⟩, rfl⟩
      obtain ⟨slots, filtersBuilt⟩ := Validation.mapM_slotOf_ok builds
      exact ⟨slots, filtersBuilt, rfl⟩
  · rw [registerSchema_of_conflicts conflicting]
    simp [conflicting]

def attempt (validator : Validator) (call : String × Schema) : Validator :=
  match (validator.registerSchema call.1 call.2).result with
  | .ok next => next
  | .error _ => validator

def registerAll (validator : Validator) (calls : List (String × Schema)) : Validator :=
  calls.foldl attempt validator

def accepted (validator : Validator) : List (String × Schema) → List (String × Schema)
  | [] => []
  | call :: rest =>
    match (validator.registerSchema call.1 call.2).result with
    | .ok next => call :: accepted next rest
    | .error _ => accepted validator rest

/-- The names in the order in which they come first, and the last schema of each. -/
structure Records (validator : Validator) (calls : List (String × Schema)) : Prop where
  names : validator.schemaNames = (calls.map Prod.fst).eraseDups
  schema : ∀ name, validator.schema? name = Entries.lookup name calls.reverse

theorem attempt_tables (validator : Validator) (call : String × Schema) :
    (validator.attempt call).types = validator.types ∧
      (validator.attempt call).filters = validator.filters := by
  unfold attempt
  split
  · rename_i next h
    rw [((registerSchema_ok_iff next).mp h).2]
    exact ⟨rfl, rfl⟩
  · exact ⟨rfl, rfl⟩

theorem registerAll_tables (validator : Validator) (calls : List (String × Schema)) :
    (validator.registerAll calls).types = validator.types ∧
      (validator.registerAll calls).filters = validator.filters := by
  induction calls generalizing validator with
  | nil => exact ⟨rfl, rfl⟩
  | cons call rest ih =>
    obtain ⟨types, filters⟩ := ih (validator.attempt call)
    obtain ⟨sameTypes, sameFilters⟩ := validator.attempt_tables call
    exact ⟨types.trans sameTypes, filters.trans sameFilters⟩

theorem Records.addSchema {calls : List (String × Schema)} (records : validator.Records calls)
    (name : String) (schema : Schema) :
    (validator.addSchema name schema).Records (calls ++ [(name, schema)]) := by
  obtain ⟨names, schemas⟩ := records
  constructor
  · change (validator.schemas.insert name schema).keys = _
    have present : name ∈ validator.schemas.keys ↔ name ∈ calls.map Prod.fst := by
      change name ∈ validator.schemaNames ↔ _
      rw [names, List.mem_eraseDups]
    rw [Table.keys_insert, List.map_append, List.eraseDups_append, ← names]
    by_cases h : name ∈ calls.map Prod.fst
    · rw [if_pos (present.mpr h)]
      simp [List.removeAll, h, schemaNames]
    · rw [if_neg (mt present.mp h)]
      simp [List.removeAll, List.eraseDups_cons, h, schemaNames]
  · intro sought
    change (validator.schemas.insert name schema).get? sought = _
    rw [Table.get?_insert, List.reverse_append]
    change (if name = sought then some schema else validator.schema? sought) = _
    rw [schemas]
    rfl

theorem Records.registerAll {before : List (String × Schema)} (records : validator.Records before)
    (calls : List (String × Schema)) :
    (validator.registerAll calls).Records (before ++ validator.accepted calls) := by
  -- what a call adds to the record is what it adds to the calls that went through
  induction calls generalizing validator before with
  | nil => simpa [Validator.registerAll, accepted] using records
  | cons call rest ih =>
    simp only [Validator.registerAll, List.foldl_cons, accepted, attempt]
    cases h : (validator.registerSchema call.1 call.2).result with
    | error error => exact ih records
    | ok next =>
      obtain ⟨-, rfl⟩ := (registerSchema_ok_iff next).mp h
      have extended := ih (records.addSchema call.1 call.2)
      rwa [List.append_assoc] at extended

theorem records_empty (types : TypeTable) (filters : FilterTable) :
    (Validator.mk types filters .empty).Records [] := ⟨rfl, fun _ => rfl⟩

/-- What a validator answers after any registrations is told by those of them that went through. -/
theorem registerAll_history (types : TypeTable) (filters : FilterTable)
    (calls : List (String × Schema)) :
    let start : Validator := ⟨types, filters, .empty⟩
    let reached := start.registerAll calls
    let through := start.accepted calls
    (∀ name schema,
      ((∃ next, (reached.registerSchema name schema).result = .ok next) ↔
        (∀ entry ∈ schema.entries, ¬ entry.2.Offends) ∧ ∀ entry ∈ schema.entries,
          ∃ filter, (filters.build entry.1 entry.2.options).result = .ok filter) ∧
      ((∃ entry ∈ schema.entries, entry.2.Offends) →
        ∃ names, reached.registerSchema name schema = .fail (.schemaDefinition name names) ∧
          names.Sublist schema.names ∧
          ∀ entry ∈ schema.entries, entry.1 ∈ names ↔ entry.2.Offends) ∧
      ((∀ entry ∈ schema.entries, ¬ entry.2.Offends) → ∀ error,
        Sequence.FailsFirst (fun entry : String × Argument =>
            (filters.build entry.1 entry.2.options).result) schema.entries error →
          (reached.registerSchema name schema).result = .error error) ∧
      ∀ error, (reached.registerSchema name schema).result = .error error →
        start.registerAll (calls ++ [(name, schema)]) = reached) ∧
    reached.schemaNames = (through.map Prod.fst).eraseDups ∧
    ∀ name given,
      (reached.validateRegistered name given = match Entries.lookup name through.reverse with
        | some schema => Validation.validate types filters name schema given
        | none => .fail (.unknownSchema name)) ∧
      ((∀ entries, given ≠ .map entries) ∨ filters.CustomFree →
        ((reached.validateRegistered name given).result = .error (.unknownSchema name) ↔
          Entries.lookup name through.reverse = none)) := by
  intro start reached through
  obtain ⟨sameTypes, sameFilters⟩ : reached.types = types ∧ reached.filters = filters :=
    registerAll_tables start calls
  obtain ⟨names, schemas⟩ := (records_empty types filters).registerAll calls
  refine ⟨?_, names, ?_⟩
  · intro name schema
    refine ⟨?_, ?_, ?_, ?_⟩
    · simp only [registerSchema_ok_iff, sameFilters, exists_and_left, exists_eq, and_true]
    · rintro ⟨entry, member, offends⟩
      have conflicting : schema.conflicts ≠ [] := by
        intro none
        exact Schema.conflicts_eq_nil_iff.mp none entry member offends
      exact ⟨schema.conflicts, registerSchema_of_conflicts conflicting, schema.conflicts_sublist,
        fun _ => Schema.mem_conflicts_iff⟩
    · intro clean error first
      rw [registerSchema_result (Schema.conflicts_eq_nil_iff.mpr clean), sameFilters,
        Sequence.map_error_iff, Sequence.mapM_error_iff]
      exact (Validation.failsFirst_slotOf _ _).mpr first
    · intro error refused
      rw [registerAll, List.foldl_append]
      simp only [List.foldl_cons, List.foldl_nil]
      change reached.attempt (name, schema) = reached
      rw [attempt, refused]
  · intro name given
    have answer : reached.validateRegistered name given =
        match Entries.lookup name through.reverse with
        | some schema => Validation.validate types filters name schema given
        | none => .fail (.unknownSchema name) := by
      rw [validateRegistered, schemas]
      simp only [Validator.validate, sameTypes, sameFilters]
      rfl
    refine ⟨answer, ?_⟩
    intro proper
    rw [answer]
    cases Entries.lookup name through.reverse with
    | none => simp
    | some schema => simpa using Validation.validate_ne_unknownSchema proper name

def torn : Schema where
  arguments := ⟨[("note",
    { options := { declared := .tag "string", optional := true, default := some (.int 1) } })],
    by decide⟩

def untyped : Schema where
  arguments := ⟨[("page", { options := .ofType (.tag "uuid") })], by decide⟩

theorem registerSchema_untyped (validator : Validator) (standard : validator.filters = .standard)
    (name : String) :
    (validator.registerSchema name untyped).result = .error (.unknownType "uuid") := by
  have unbuilt : Validation.slotOf .standard ("page", { options := .ofType (.tag "uuid") }) =
      .error (.unknownType "uuid") := by
    rw [Validation.slotOf, FilterTable.build_result]
    rfl
  rw [registerSchema_result rfl, standard]
  exact (Sequence.map_error_iff _ _ _).mpr (Sequence.mapM_cons_error unbuilt [])

def orders : List (String × Schema) :=
  [("order", Validation.order), ("order", torn), ("visit", untyped)]

theorem accepted_orders :
    (Validator.mk .empty .standard .empty).accepted orders = [("order", Validation.order)] := by
  have first : ((Validator.mk .empty .standard .empty).registerSchema "order"
      Validation.order).result = .ok _ :=
    (registerSchema_ok_iff _).mpr
      ⟨⟨Schema.conflicts_eq_nil_iff.mp rfl, Validation.order_builds⟩, rfl⟩
  have second : ∀ validator : Validator,
      (validator.registerSchema "order" torn).result = .error _ :=
    fun _ => congrArg Traced.result (registerSchema_of_conflicts (by decide))
  simp only [orders, accepted, first, second]
  rw [registerSchema_untyped _ rfl]

theorem registerAll_history_orders :
    let reached := (Validator.mk .empty .standard .empty).registerAll orders
    reached.schemaNames = ["order"] ∧
      reached.validateRegistered "order" .null =
        .fail (.callShape "order" ["count", "unit", "note", "label"]) ∧
      reached.validateRegistered "visit" .null = .fail (.unknownSchema "visit") := by
  obtain ⟨-, names, answers⟩ := registerAll_history .empty .standard orders
  rw [accepted_orders] at names answers
  exact ⟨names, (answers "order" .null).1, (answers "visit" .null).1⟩

end Validator

end ArgCheck
