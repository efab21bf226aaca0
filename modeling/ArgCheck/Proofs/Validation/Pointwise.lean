import ArgCheck.Proofs.Filter.Processing
import ArgCheck.Proofs.Validation.Run

set_option autoImplicit false

/-!
# Validation, argument by argument

What an argument comes to depends on the value under its own name and on nothing else that was given.
`pointwise` says it for one argument, without any state; `validate_pointwise` that a validation in
which no name is missing or unknown comes to just that, in the order of the schema.
-/

namespace ArgCheck.Validation

/-- The value that an argument starts from. A null that was given counts as given. -/
def supplied (given : Arguments) (name : String) (argument : Argument) : Value :=
  match Entries.lookup name given with
  | some value => value
  | none => if argument.isOptional then .null else argument.default?.getD .null

def filtered (filters : FilterTable) (name : String) (argument : Argument) (value : Value) :
    Except ArgumentError Value :=
  (filters.build name argument.options).result.bind fun filter => (filter.process value).result

def normalForm (types : TypeTable) (filters : FilterTable) (name : String) (argument : Argument)
    (value : Value) : Except ArgumentError Value :=
  if value.isNull then .ok .null
  else
    match argument.coercer, argument.declared.typeId? with
    | some coerce, _ => .ok (coerce value)
    | none, some t =>
      if types.hasCoercer t then
        if types.valid t (types.coerce t value) then .ok (types.coerce t value)
        else .error (.argumentType name t.name)
      else filtered filters name argument value
    | none, none => filtered filters name argument value

theorem filtered_plain {filters : FilterTable} {name : String} {argument : Argument} {b : Builtin}
    (kind : filters.resolve argument.options.declared = .ok (.builtin b))
    (bare : argument.options.itemsOf b = none) (value : Value) :
    filtered filters name argument value =
      (Filter.processBuiltin b ⟨name, argument.options⟩ value).result := by
  have built : FilterTable.Built filters name argument.options _ := .plain kind bare
  rw [filtered, built.build_result, ← Filter.process_plain]
  rfl

theorem normalForm_null (types : TypeTable) (filters : FilterTable) (name : String)
    (argument : Argument) : normalForm types filters name argument .null = .ok .null := rfl

/-- It is settled by the argument alone which of the three ways its values go. -/
theorem normalForm_cases (types : TypeTable) (filters : FilterTable) (name : String)
    (argument : Argument) :
    (∃ coerce, argument.coercer = some coerce ∧ ∀ value ≠ .null,
        normalForm types filters name argument value = .ok (coerce value)) ∨
      (∃ t, ∀ value ≠ .null,
        normalForm types filters name argument value = coerceChecked types t name value) ∨
      ∀ value ≠ .null,
        normalForm types filters name argument value = filtered filters name argument value := by
  have skip : ∀ value : Value, value ≠ .null → ¬ value.isNull = true := by
    intro value h
    rwa [Value.isNull_iff]
  cases own : argument.coercer with
  | some coerce =>
    refine .inl ⟨coerce, rfl, ?_⟩
    intro value h
    rw [normalForm, if_neg (skip value h), own]
  | none =>
    cases typed : argument.declared.typeId? with
    | none =>
      refine .inr (.inr ?_)
      intro value h
      rw [normalForm, if_neg (skip value h), own, typed]
    | some t =>
      by_cases coerces : types.hasCoercer t = true
      · refine .inr (.inl ⟨t, ?_⟩)
        intro value h
        simp only [normalForm, if_neg (skip value h), own, typed, if_pos coerces]
        rfl
      · refine .inr (.inr ?_)
        intro value h
        simp only [normalForm, if_neg (skip value h), own, typed, if_neg coerces]

/-- Where an argument ends up, by what the caller gave. -/
def pointwise (types : TypeTable) (filters : FilterTable) (given : Arguments)
    (entry : String × Argument) : Except ArgumentError Value :=
  normalForm types filters entry.1 entry.2 (supplied given entry.1 entry.2)

variable {types : TypeTable} {filters : FilterTable} {schema : Schema} {given : Arguments}

theorem supplied_eq {entry : String × Argument} (member : entry ∈ schema.entries) :
    supplied given entry.1 entry.2 =
      (Entries.lookup entry.1 (withDefaults schema given)).getD .null := by
  have declared : schema.get? entry.1 = some entry.2 := Schema.get?_of_mem member
  rw [lookup_withDefaults, declared]
  unfold supplied
  cases Entries.lookup entry.1 given with
  | some value => rfl
  | none =>
    simp only [Option.none_or, Option.bind_some, Argument.standby]
    split <;> rfl

theorem filtered_result {entry : String × Argument} {slot : Slot}
    (h : slotOf filters entry = .ok slot) (value : Value) :
    filtered filters entry.1 entry.2 value = (slot.filter.process value).result := by
  have built := ((slotOf_ok_iff _ _).mp h).2.2
  rw [filtered, built]
  rfl

theorem normalize_result {entry : String × Argument} {slot : Slot}
    (h : slotOf filters entry = .ok slot) (value : Value) :
    (normalize types slot value).result = normalForm types filters entry.1 entry.2 value := by
  have hf := filtered_result h value
  obtain ⟨name, argument, filter⟩ := slot
  obtain ⟨rfl, rfl, -⟩ := (slotOf_ok_iff _ _).mp h
  unfold normalize normalForm coercedType?
  by_cases null : value.isNull = true
  · rw [if_pos null, if_pos null, (Value.isNull_iff value).mp null]
    rfl
  · rw [if_neg null, if_neg null]
    simp only
    cases entry.2.coercer with
    | some coerce => rfl
    | none =>
      cases entry.2.declared.typeId? with
      | none => exact hf.symm
      | some t =>
        cases hc : types.hasCoercer t with
        | false =>
          simp only [Option.filter, hc, Bool.false_eq_true, if_false]
          exact hf.symm
        | true =>
          simp only [Option.filter, hc, if_true]
          rfl

theorem normalizeIn_result {entry : String × Argument} {slot : Slot}
    (h : slotOf filters entry = .ok slot) (member : entry ∈ schema.entries) :
    normalizeIn types (withDefaults schema given) slot =
      (pointwise types filters given entry).map fun value => (entry.1, value) := by
  have hn := ((slotOf_ok_iff _ _).mp h).1
  unfold normalizeIn pointwise
  rw [normalize_result h, hn, supplied_eq member]

theorem mapM_slotOf_ok (builds : ∀ entry ∈ schema.entries,
      ∃ filter, (filters.build entry.1 entry.2.options).result = .ok filter) :
    ∃ slots, schema.entries.mapM (slotOf filters) = .ok slots := by
  refine Sequence.mapM_ok_of_forall ?_
  intro entry member
  obtain ⟨filter, built⟩ := builds entry member
  exact ⟨⟨entry.1, entry.2, filter⟩, (slotOf_ok_iff _ _).mpr ⟨rfl, rfl, built⟩⟩

/-- Past the checks the arguments are worked off one by one, none looking at another. -/
theorem validate_eq_mapM (types : TypeTable) (name : String) (distinct : (Entries.keys given).Nodup)
    (builds : ∀ entry ∈ schema.entries,
      ∃ filter, (filters.build entry.1 entry.2.options).result = .ok filter)
    (complete : lacking schema given = []) (known : foreign schema given = []) :
    (validate types filters name schema (.map given)).result =
      schema.entries.mapM fun entry =>
        (pointwise types filters given entry).map fun value => (entry.1, value) := by
  obtain ⟨slots, filtersBuilt⟩ := mapM_slotOf_ok builds
  have names := slot_names filtersBuilt
  have distinctSlots : (slots.map Slot.name).Nodup := names ▸ schema.nodup_names
  rw [validate_checked types name filtersBuilt complete known,
    normalizeSlots_result (nodup_keys_withDefaults schema distinct) distinctSlots]
  have paired := (List.forall₂_and_left schema.entries slots).mpr
    ⟨fun _ member => member, (Sequence.mapM_ok_iff _ _ _).mp filtersBuilt⟩
  refine (Sequence.mapM_forall₂ (paired.imp ?_)).symm
  rintro entry slot ⟨member, built⟩
  exact (normalizeIn_result built member).symm

structure Passed (filters : FilterTable) (schema : Schema) (given : Arguments) : Prop where
  builds : ∀ entry ∈ schema.entries,
    ∃ filter, (filters.build entry.1 entry.2.options).result = .ok filter
  complete : lacking schema given = []
  known : foreign schema given = []

theorem passed_of_validate_ok {name : String} {normalized : Arguments}
    (h : (validate types filters name schema (.map given)).result = .ok normalized) :
    Passed filters schema given ∧ Entries.keys normalized = schema.names := by
  rw [validate_map_result, Sequence.bind_ok_iff] at h
  obtain ⟨slots, filtersBuilt, h⟩ := h
  rw [Sequence.bind_ok_iff, checkNames_withDefaults] at h
  obtain ⟨_, named, run⟩ := h
  refine ⟨⟨?_, ?_, ?_⟩, (normalizeSlots_keys run).trans (slot_names filtersBuilt)⟩
  · intro entry member
    obtain ⟨slot, -, made⟩ := Sequence.result_of_mapM_ok filtersBuilt member
    exact ⟨slot.filter, ((slotOf_ok_iff _ _).mp made).2.2⟩
  · by_contra missing
    rw [if_pos missing] at named
    cases named
  · by_contra unknown
    rw [if_pos unknown] at named
    split at named <;> cases named

/-- The result of a validation holds what each argument came to under its name. -/
theorem lookup_of_validate_ok {name : String} (distinct : (Entries.keys given).Nodup)
    {normalized : Arguments}
    (h : (validate types filters name schema (.map given)).result = .ok normalized)
    {entry : String × Argument} (member : entry ∈ schema.entries) :
    ∃ value, pointwise types filters given entry = .ok value ∧
      Entries.lookup entry.1 normalized = some value := by
  obtain ⟨⟨builds, complete, known⟩, keys⟩ := passed_of_validate_ok h
  rw [validate_eq_mapM types name distinct builds complete known] at h
  obtain ⟨result, inside, found⟩ := Sequence.result_of_mapM_ok h member
  obtain ⟨value, came, rfl⟩ := (Sequence.map_ok_iff _ _ _).mp found
  exact ⟨value, came, Entries.lookup_of_mem (keys ▸ schema.nodup_names) inside⟩

/-- The results of the arguments in the order of the schema, or the first failure in that order. -/
theorem validate_pointwise (types : TypeTable) (filters : FilterTable) (name : String)
    (schema : Schema) (given : Table String Value)
    (builds : ∀ entry ∈ schema.entries,
      ∃ filter, (filters.build entry.1 entry.2.options).result = .ok filter)
    (complete : ∀ entry ∈ schema.entries, entry.2.isOptional = false →
      entry.1 ∈ given.keys ∨ entry.2.default?.isSome = true)
    (known : ∀ key ∈ given.keys, key ∈ schema.names) :
    (∀ value : String → Value,
      (∀ entry ∈ schema.entries,
        pointwise types filters given.entries entry = .ok (value entry.1)) →
      (validate types filters name schema (.map given.entries)).result =
        .ok (schema.names.map fun key => (key, value key))) ∧
    ∀ error, Sequence.FailsFirst (pointwise types filters given.entries) schema.entries error →
      (validate types filters name schema (.map given.entries)).result = .error error := by
  have run := validate_eq_mapM types name given.distinct builds
    ((lacking_eq_nil_iff schema given.entries).mpr complete)
    ((foreign_eq_nil_iff schema given.entries).mpr known)
  constructor
  · intro value normal
    have names : (schema.names.map fun key => (key, value key)) =
        schema.entries.map fun entry => (entry.1, value entry.1) := List.map_map
    rw [run, names, Sequence.mapM_ok_iff, List.forall₂_map_right_iff, List.forall₂_same]
    intro entry member
    rw [normal entry member]
    rfl
  · intro error first
    rw [run, Sequence.mapM_error_iff]
    exact (Sequence.failsFirst_map_iff _ _ _ _).mpr first

def order : Schema where
  arguments := ⟨[("count", { options := .ofType (.tag "integer") }),
    ("unit", { options := { declared := .tag "string", default := some (.string "items") } }),
    ("note", { options := { declared := .tag "string", optional := true } }),
    ("label", { options := { declared := .tag "symbol", default := some (.symbol "plain") } })],
    by decide⟩

def integerHandled : TypeTable :=
  TypeTable.empty.add (.builtin .integer) { handler := some .integer }

theorem order_builds : ∀ entry ∈ order.entries,
    ∃ filter, (FilterTable.standard.build entry.1 entry.2.options).result = .ok filter := by
  simp only [order, Schema.entries, List.forall_mem_cons, List.not_mem_nil, false_implies,
    implies_true, and_true]
  refine ⟨?_, ?_, ?_, ?_⟩ <;>
    exact ⟨_, (FilterTable.Built.plain rfl rfl).build_result⟩

theorem validate_pointwise_order :
    (validate integerHandled .standard "order" order
        (.map [("label", .null), ("count", .string " 42 ")])).result =
      .ok [("count", .int 42), ("unit", .string "items"), ("note", .null), ("label", .null)] := by
  have results := (validate_pointwise integerHandled .standard "order" order
    ⟨[("label", .null), ("count", .string " 42 ")], by decide⟩ order_builds
    (by decide) (by decide)).1
  refine results (fun name =>
    if name = "count" then .int 42 else if name = "unit" then .string "items" else .null) ?_
  simp only [order, Schema.entries, List.forall_mem_cons, List.not_mem_nil, false_implies,
    implies_true, and_true]
  refine ⟨rfl, ?_, rfl, rfl⟩
  change filtered .standard "unit" _ (.string "items") = _
  rw [filtered_plain (b := .string) rfl rfl]
  rfl

end ArgCheck.Validation
