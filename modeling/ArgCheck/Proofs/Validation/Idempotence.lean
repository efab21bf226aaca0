import ArgCheck.Proofs.Filter.Canonical
import ArgCheck.Proofs.TypeTable.Coercion
import ArgCheck.Proofs.Validation.Pointwise

set_option autoImplicit false

/-!
# Validating twice

What a validation returns has a value under every name of the schema and no other names, so a second
validation fills in no default and finds no name missing or unknown. The values are already in normal
form (`normalize_settled`), so it returns what it was given.
-/

namespace ArgCheck.Validation

variable {types : TypeTable} {filters : FilterTable} {schema : Schema}

theorem filtered_settled (plain : filters.CustomFree) (sound : filters.StoreSound)
    {entry : String × Argument} {slot : Slot} (made : slotOf filters entry = .ok slot)
    {value result : Value} (h : filtered filters entry.1 entry.2 value = .ok result) :
    filtered filters entry.1 entry.2 result = .ok result := by
  have built := plain.built ((slotOf_ok_iff _ _).mp made).2.2
  rw [filtered_result made] at h ⊢
  exact built.process_of_settled (built.process_settled sound h)

theorem coerceChecked_settled (lenient : types.Lenient) {t : TypeId} {name : String}
    {value result : Value} (h : coerceChecked types t name value = .ok result) :
    coerceChecked types t name result = .ok result := by
  simp only [coerceChecked] at h ⊢
  split at h
  · rename_i valid
    cases h
    rw [lenient.coerce_idempotent, if_pos valid]
  · cases h

theorem normalForm_settled (plain : filters.CustomFree) (sound : filters.StoreSound)
    (lenient : types.Lenient) {entry : String × Argument} {slot : Slot}
    (made : slotOf filters entry = .ok slot) (uncoerced : entry.2.coercer = none)
    {value result : Value} (h : normalForm types filters entry.1 entry.2 value = .ok result) :
    normalForm types filters entry.1 entry.2 result = .ok result := by
  by_cases null : result = .null
  · rw [null, normalForm_null]
  · have nonnull : value ≠ .null := by
      rintro rfl
      rw [normalForm_null] at h
      exact null (Except.ok.inj h).symm
    rcases normalForm_cases types filters entry.1 entry.2 with
      ⟨coerce, own, _⟩ | ⟨t, byType⟩ | byFilter
    · rw [uncoerced] at own
      cases own
    · rw [byType value nonnull] at h
      rw [byType result null]
      exact coerceChecked_settled lenient h
    · rw [byFilter value nonnull] at h
      rw [byFilter result null]
      exact filtered_settled plain sound made h

theorem normalize_settled (plain : filters.CustomFree) (sound : filters.StoreSound)
    (lenient : types.Lenient) {entry : String × Argument} {slot : Slot}
    (made : slotOf filters entry = .ok slot) (uncoerced : entry.2.coercer = none)
    {value result : Value} (h : (normalize types slot value).result = .ok result) :
    (normalize types slot result).result = .ok result := by
  rw [normalize_result made] at h ⊢
  exact normalForm_settled plain sound lenient made uncoerced h

theorem map_of_validate_ok {name : String} {value : Value} {normalized : Arguments}
    (h : (validate types filters name schema value).result = .ok normalized) :
    ∃ given, value = .map given := by
  cases value with
  | map given => exact ⟨given, rfl⟩
  | _ => cases h

theorem lacking_of_keys {given : Arguments} (keys : Entries.keys given = schema.names) :
    lacking schema given = [] := by
  rw [lacking_eq_nil_iff]
  intro entry member _
  exact .inl (keys ▸ List.mem_map_of_mem member)

theorem foreign_of_keys {given : Arguments} (keys : Entries.keys given = schema.names) :
    foreign schema given = [] := by
  rw [foreign_eq_nil_iff, keys]
  exact fun _ member => member

theorem lookup_withDefaults_of_mem {given : Arguments} (distinct : (Entries.keys given).Nodup)
    {entry : String × Value} (member : entry ∈ given) :
    Entries.lookup entry.1 (withDefaults schema given) = some entry.2 := by
  rw [lookup_withDefaults, Entries.lookup_of_mem distinct member]
  rfl

/-- A validation has nothing to do on what a validation returned. -/
theorem validate_idempotent (plain : filters.CustomFree) (sound : filters.StoreSound)
    (lenient : types.Lenient) (name : String) (schema : Schema)
    (uncoerced : ∀ entry ∈ schema.entries, entry.2.coercer = none) (given : Value)
    (normalized : Arguments)
    (h : (validate types filters name schema given).result = .ok normalized) :
    (validate types filters name schema (.map normalized)).result = .ok normalized := by
  obtain ⟨arguments, rfl⟩ := map_of_validate_ok h
  rw [validate_map_result, Sequence.bind_ok_iff] at h
  obtain ⟨slots, filtersBuilt, h⟩ := h
  obtain ⟨_, _, h⟩ := (Sequence.bind_ok_iff _ _ _).mp h
  have results := normalizeSlots_ok h
  have names := slot_names filtersBuilt
  have keys : Entries.keys normalized = schema.names := (normalizeSlots_keys h).trans names
  have distinct : (Entries.keys normalized).Nodup := keys ▸ schema.nodup_names
  rw [validate_checked types name filtersBuilt (lacking_of_keys keys) (foreign_of_keys keys),
    normalizeSlots_result (nodup_keys_withDefaults schema distinct) (names ▸ schema.nodup_names),
    Sequence.mapM_ok_iff]
  -- The pairs of the first run, with the slot's place in the schema and the entry's in the result.
  refine List.forall₂_iff_zip.mpr ⟨results.length_eq, ?_⟩
  intro slot entry paired
  obtain ⟨inSlots, inResult⟩ := List.of_mem_zip paired
  obtain ⟨hn, value, hv⟩ := List.forall₂_zip results paired
  obtain ⟨declared, member, made⟩ := Sequence.exists_of_mapM_ok filtersBuilt inSlots
  have again := normalize_settled plain sound lenient made (uncoerced declared member) hv
  unfold normalizeIn
  rw [← hn, lookup_withDefaults_of_mem distinct inResult, Option.getD_some, again]
  rfl

def packed : Arguments :=
  [("count", .int 7), ("unit", .string "boxes"), ("note", .null), ("label", .symbol "fragile")]

theorem validate_idempotent_packed :
    (validate integerHandled .standard "order" order (.map packed)).result = .ok packed := by
  have lenient : integerHandled.Lenient := by
    refine TypeTable.lenient_empty.add (.builtin .integer) rfl ?_
    rintro handler ⟨⟩
    simp [TypeHandler.builtins]
  have uncoerced : ∀ entry ∈ order.entries, entry.2.coercer = none := by
    simp [order, Schema.entries]
  have sound : FilterTable.standard.StoreSound := by
    intro store h
    cases h
  have first : (validate integerHandled .standard "order" order
      (.map [("unit", .symbol "boxes"), ("label", .string "fragile"),
        ("count", .string "7")])).result = .ok packed := by
    rw [validate_eq_mapM integerHandled "order" (by decide) order_builds (by decide) (by decide),
      Sequence.mapM_ok_iff]
    refine .cons rfl (.cons ?_ (.cons rfl (.cons ?_ .nil)))
    · change (filtered .standard "unit" _ (.symbol "boxes")).map _ = _
      rw [filtered_plain (b := .string) rfl rfl]
      rfl
    · change (filtered .standard "label" _ (.string "fragile")).map _ = _
      rw [filtered_plain (b := .symbol) rfl rfl]
      rfl
  exact validate_idempotent FilterTable.customFree_standard sound lenient "order" order uncoerced
    _ packed first

end ArgCheck.Validation
