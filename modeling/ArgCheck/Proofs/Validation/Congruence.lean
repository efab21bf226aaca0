import ArgCheck.Proofs.Validation.Run

set_option autoImplicit false

/-!
# Schemas that validate alike

A validation sees of a schema the names in their order, which arguments may be left out, their
defaults, and what is made of each value. Schemas that agree in these have the same results and the
same errors, whatever is given (`validate_congr`).
-/

namespace ArgCheck

namespace TypeId

variable {t other : TypeId}

theorem name_congr (key : t.key = other.key) : t.name = other.name := by
  cases t <;> cases other <;> simp_all [TypeId.key, name]

theorem isInstance_congr (key : t.key = other.key) (value : Value) :
    t.isInstance value = other.isInstance value := by
  cases t <;> cases other <;> cases value <;>
    simp_all [TypeId.key, isInstance, EntityOf.isA, EntityClass.isA]

end TypeId

namespace TypeTable

variable {table : TypeTable} {t other : TypeId}

theorem forms_congr (key : t.key = other.key) : table.forms t = table.forms other := by
  rw [forms, forms, key]

theorem hasCoercer_congr (key : t.key = other.key) :
    table.hasCoercer t = table.hasCoercer other := by
  rw [hasCoercer, hasCoercer, forms_congr key]

theorem coerce_congr (key : t.key = other.key) (value : Value) :
    table.coerce t value = table.coerce other value := by
  rw [coerce, coerce, forms_congr key]

theorem valid_congr (key : t.key = other.key) (value : Value) :
    table.valid t value = table.valid other value := by
  rw [valid, valid, forms_congr key, TypeId.isInstance_congr key]

end TypeTable

namespace Validation

variable {types : TypeTable} {filters : FilterTable}

theorem coerceChecked_congr {t other : TypeId} (key : t.key = other.key) (name : String)
    (value : Value) : coerceChecked types t name value = coerceChecked types other name value := by
  simp only [coerceChecked, TypeTable.coerce_congr key, TypeTable.valid_congr key,
    TypeId.name_congr key]

structure SameSlot (types : TypeTable) (slot other : Slot) : Prop where
  name : slot.name = other.name
  normalize : ∀ value, (normalize types slot value).result = (normalize types other value).result

theorem coercedType?_congr {argument other : Argument}
    (typed : argument.declared.typeId?.map TypeId.key = other.declared.typeId?.map TypeId.key) :
    (coercedType? types argument).map TypeId.key = (coercedType? types other).map TypeId.key := by
  unfold coercedType?
  cases ha : argument.declared.typeId? <;> cases ho : other.declared.typeId? <;>
    simp only [ha, ho, Option.map_some, Option.map_none, Option.some.injEq, reduceCtorEq] at typed
  · rfl
  · simp only [Option.filter_some, TypeTable.hasCoercer_congr typed]
    split
    · rw [Option.map_some, Option.map_some, typed]
    · rfl

theorem normalize_uncoerced {slot : Slot} (uncoerced : slot.argument.coercer = none)
    (value : Value) : (normalize types slot value).result =
      if value.isNull then .ok value
      else match coercedType? types slot.argument with
        | some t => coerceChecked types t slot.name value
        | none => (slot.filter.process value).result := by
  unfold normalize
  split
  · rfl
  · rw [uncoerced]
    cases coercedType? types slot.argument <;> rfl

theorem normalize_congr {slot other : Slot} (name : slot.name = other.name)
    (uncoerced : slot.argument.coercer = none) (otherUncoerced : other.argument.coercer = none)
    (typed : slot.argument.declared.typeId?.map TypeId.key =
      other.argument.declared.typeId?.map TypeId.key)
    (process : ∀ value, (slot.filter.process value).result = (other.filter.process value).result)
    (value : Value) :
    (normalize types slot value).result = (normalize types other value).result := by
  have coerced : (coercedType? types slot.argument).map TypeId.key = _ := coercedType?_congr typed
  rw [normalize_uncoerced uncoerced, normalize_uncoerced otherUncoerced]
  cases hs : coercedType? types slot.argument <;> cases ho : coercedType? types other.argument <;>
    simp only [hs, ho, Option.map_some, Option.map_none, Option.some.injEq, reduceCtorEq] at coerced
  · rw [process]
  · simp only [coerceChecked_congr coerced, name]

theorem normalizeSlots_congr {slots others : List Slot}
    (h : List.Forall₂ (SameSlot types) slots others) (given : Arguments) :
    (normalizeSlots types given slots).result = (normalizeSlots types given others).result := by
  induction h generalizing given with
  | nil => rfl
  | cons head _ ih =>
    rw [normalizeSlots_cons, normalizeSlots_cons, normalizeIn, normalizeIn, head.name,
      head.normalize, ih]

structure Alike (types : TypeTable) (filters : FilterTable) (entry other : String × Argument) :
    Prop where
  name : entry.1 = other.1
  optional : entry.2.isOptional = other.2.isOptional
  default : entry.2.default? = other.2.default?
  slot : Sequence.Agree (SameSlot types) (slotOf filters entry) (slotOf filters other)

section Entries

variable {entries others : Entries String Argument}

theorem keys_congr (h : List.Forall₂ (Alike types filters) entries others) :
    entries.keys = others.keys := by
  induction h with
  | nil => rfl
  | cons head _ ih => rw [Entries.keys_cons, Entries.keys_cons, head.name, ih]

theorem keys_filter_congr (h : List.Forall₂ (Alike types filters) entries others)
    {test : String × Argument → Bool}
    (same : ∀ entry other, Alike types filters entry other → test entry = test other) :
    Entries.keys (entries.filter test) = Entries.keys (others.filter test) := by
  induction h with
  | nil => rfl
  | cons head _ ih =>
    rw [List.filter_cons, List.filter_cons, same _ _ head]
    split
    · rw [Entries.keys_cons, Entries.keys_cons, head.name, ih]
    · exact ih

theorem addDefault_congr {entry other : String × Argument} (alike : Alike types filters entry other)
    (given : Arguments) : addDefault given entry = addDefault given other := by
  rw [addDefault, addDefault, alike.name, alike.optional, alike.default]

theorem foldl_addDefault_congr (h : List.Forall₂ (Alike types filters) entries others)
    (given : Arguments) : entries.foldl addDefault given = others.foldl addDefault given := by
  induction h generalizing given with
  | nil => rfl
  | cons head _ ih => rw [List.foldl_cons, List.foldl_cons, addDefault_congr head, ih]

end Entries

variable {schema other : Schema}

theorem checkNames_congr (h : List.Forall₂ (Alike types filters) schema.entries other.entries)
    (name : String) (given : Arguments) :
    checkNames name schema given = checkNames name other given := by
  have names : schema.names = other.names := keys_congr h
  have known : ∀ key, schema.contains key = other.contains key := by
    intro key
    rw [Bool.eq_iff_iff, Schema.contains_iff, Schema.contains_iff, names]
  have absent : missing schema given = missing other given := by
    refine keys_filter_congr h ?_
    intro entry other alike
    simp only [alike.name, alike.optional]
  have foreign : unknown schema given = unknown other given := by
    simp only [unknown, known]
  rw [checkNames, checkNames, absent, foreign]

theorem validate_congr (h : List.Forall₂ (Alike types filters) schema.entries other.entries)
    (name : String) (given : Value) :
    (validate types filters name schema given).result =
      (validate types filters name other given).result := by
  cases given with
  | map given =>
    have slots := Sequence.mapM_agree (h.imp fun _ _ alike => alike.slot)
    rw [validate_map_result, validate_map_result, withDefaults, withDefaults,
      foldl_addDefault_congr h, checkNames_congr h]
    refine slots.bind_eq ?_
    intro slots others same
    rw [normalizeSlots_congr same]
  | _ =>
    have names : schema.names = other.names := keys_congr h
    simp only [validate, names]

end Validation

end ArgCheck
