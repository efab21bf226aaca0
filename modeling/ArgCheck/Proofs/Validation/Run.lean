import ArgCheck.Proofs.Sequence
import ArgCheck.Proofs.Validation.Defaults

set_option autoImplicit false

/-!
# A validation, step by step

What each of the steps of a validation comes to: the filters are built one after the other, the names
are checked by what the caller gave, and each argument finds the value that stood under its name at the
start, although the arguments before it have been taken out by then (`normalizeSlots_result`).
-/

namespace ArgCheck.Validation

variable {types : TypeTable} {filters : FilterTable} {name : String} {schema : Schema}

def slotOf (filters : FilterTable) (entry : String × Argument) : Except ArgumentError Slot :=
  (filters.build entry.1 entry.2.options).result.map fun filter => ⟨entry.1, entry.2, filter⟩

theorem slotOf_ok_iff (entry : String × Argument) (slot : Slot) :
    slotOf filters entry = .ok slot ↔ slot.name = entry.1 ∧ slot.argument = entry.2 ∧
      (filters.build entry.1 entry.2.options).result = .ok slot.filter := by
  rw [slotOf, Sequence.map_ok_iff]
  constructor
  · rintro ⟨filter, built, rfl⟩
    exact ⟨rfl, rfl, built⟩
  · obtain ⟨name, argument, filter⟩ := slot
    rintro ⟨rfl, rfl, built⟩
    exact ⟨filter, built, rfl⟩

theorem buildSlots_result (filters : FilterTable) (entries : List (String × Argument)) :
    (buildSlots filters entries).result = entries.mapM (slotOf filters) := by
  induction entries with
  | nil => rfl
  | cons entry rest ih =>
    obtain ⟨name, argument⟩ := entry
    rw [buildSlots, List.mapM_cons, ← ih]
    simp only [Traced.result_bind, Traced.result_pure, slotOf]
    cases (filters.build name argument.options).result <;> rfl

theorem slot_names {entries : Entries String Argument} {slots : List Slot}
    (h : entries.mapM (slotOf filters) = .ok slots) :
    slots.map Slot.name = Entries.keys entries := by
  rw [Sequence.mapM_ok_iff] at h
  induction h with
  | nil => rfl
  | cons head _ ih =>
    rw [List.map_cons, Entries.keys_cons, ih, ((slotOf_ok_iff _ _).mp head).1]

theorem checkNames_withDefaults (name : String) (schema : Schema) (given : Arguments) :
    checkNames name schema (withDefaults schema given) =
      if lacking schema given ≠ [] then
        .error (.missingArguments name (lacking schema given))
      else if foreign schema given ≠ [] then
        .error (.unknownArguments name (foreign schema given))
      else .ok () := by
  unfold checkNames
  rw [missing_withDefaults, unknown_withDefaults]
  simp only [Bool.not_eq_true', List.isEmpty_eq_false_iff]

theorem checkNames_ok (name : String) {given : Arguments} (complete : lacking schema given = [])
    (known : foreign schema given = []) :
    checkNames name schema (withDefaults schema given) = .ok () := by
  rw [checkNames_withDefaults, if_neg (not_not.mpr complete), if_neg (not_not.mpr known)]

def normalizeIn (types : TypeTable) (given : Arguments) (slot : Slot) :
    Except ArgumentError (String × Value) :=
  (normalize types slot ((Entries.lookup slot.name given).getD .null)).result.map
    fun value => (slot.name, value)

theorem normalizeSlots_cons (types : TypeTable) (given : Arguments) (slot : Slot)
    (rest : List Slot) :
    (normalizeSlots types given (slot :: rest)).result =
      (normalizeIn types given slot).bind fun entry =>
        (normalizeSlots types (Entries.swapRemove slot.name given) rest).result.map
          fun entries => entry :: entries := by
  rw [normalizeSlots]
  simp only [Traced.result_bind, Traced.result_pure, normalizeIn]
  cases (normalize types slot ((Entries.lookup slot.name given).getD .null)).result <;> rfl

/-- The names still to come find in `left` what they would have found in `given`. -/
def Intact (given left : Arguments) (names : List String) : Prop :=
  (Entries.keys left).Nodup ∧ ∀ key ∈ names, Entries.lookup key left = Entries.lookup key given

theorem Intact.swapRemove {given left : Arguments} {key : String} {names : List String}
    (intact : Intact given left (key :: names)) (fresh : key ∉ names) :
    Intact given (Entries.swapRemove key left) names := by
  obtain ⟨distinct, same⟩ := intact
  refine ⟨Entries.nodup_keys_swapRemove distinct key, ?_⟩
  intro other member
  have hk : key ≠ other := by
    rintro rfl
    exact fresh member
  rw [Entries.lookup_swapRemove distinct, if_neg hk]
  exact same other (by simp [member])

theorem normalizeSlots_of_intact {given left : Arguments} {slots : List Slot}
    (names : (slots.map Slot.name).Nodup) (intact : Intact given left (slots.map Slot.name)) :
    (normalizeSlots types left slots).result = slots.mapM (normalizeIn types given) := by
  -- `left` shrinks along the slots, while `given` stays: only what is still to come must agree.
  induction slots generalizing left with
  | nil => rfl
  | cons slot rest ih =>
    simp only [List.map_cons, List.nodup_cons] at names
    have here : normalizeIn types left slot = normalizeIn types given slot := by
      unfold normalizeIn
      rw [intact.2 slot.name (by simp)]
    rw [normalizeSlots_cons, here, ih names.2 (intact.swapRemove names.1), List.mapM_cons]
    cases normalizeIn types given slot with
    | error error => rfl
    | ok entry => cases rest.mapM (normalizeIn types given) <;> rfl

theorem normalizeSlots_result {given : Arguments} (distinct : (Entries.keys given).Nodup)
    {slots : List Slot} (names : (slots.map Slot.name).Nodup) :
    (normalizeSlots types given slots).result = slots.mapM (normalizeIn types given) :=
  normalizeSlots_of_intact names ⟨distinct, fun _ _ => rfl⟩

theorem normalizeSlots_ok {given : Arguments} {slots : List Slot} {normalized : Arguments}
    (h : (normalizeSlots types given slots).result = .ok normalized) :
    List.Forall₂ (fun slot entry => entry.1 = slot.name ∧
      ∃ value, (normalize types slot value).result = .ok entry.2) slots normalized := by
  induction slots generalizing given normalized with
  | nil =>
    cases h
    exact .nil
  | cons slot rest ih =>
    rw [normalizeSlots_cons, Sequence.bind_ok_iff] at h
    obtain ⟨entry, first, h⟩ := h
    obtain ⟨entries, others, rfl⟩ := (Sequence.map_ok_iff _ _ _).mp h
    obtain ⟨value, hv, rfl⟩ := (Sequence.map_ok_iff _ _ _).mp first
    exact .cons ⟨rfl, _, hv⟩ (ih others)

theorem normalizeSlots_keys {given : Arguments} {slots : List Slot} {normalized : Arguments}
    (h : (normalizeSlots types given slots).result = .ok normalized) :
    Entries.keys normalized = slots.map Slot.name := by
  have paired := normalizeSlots_ok h
  clear h
  induction paired with
  | nil => rfl
  | cons head _ ih => rw [Entries.keys_cons, List.map_cons, ih, head.1]

theorem normalizeSlots_error {given : Arguments} {slots : List Slot} {error : ArgumentError}
    (h : (normalizeSlots types given slots).result = .error error) :
    ∃ slot ∈ slots, ∃ value, (normalize types slot value).result = .error error := by
  induction slots generalizing given with
  | nil => cases h
  | cons slot rest ih =>
    rw [normalizeSlots_cons, Sequence.bind_error_iff] at h
    rcases h with first | ⟨entry, -, h⟩
    · exact ⟨slot, by simp, _, (Sequence.map_error_iff _ _ _).mp first⟩
    · obtain ⟨other, member, fails⟩ := ih ((Sequence.map_error_iff _ _ _).mp h)
      exact ⟨other, by simp [member], fails⟩

theorem validate_map_result (types : TypeTable) (filters : FilterTable) (name : String)
    (schema : Schema) (given : Arguments) :
    (validate types filters name schema (.map given)).result =
      (schema.entries.mapM (slotOf filters)).bind fun slots =>
        (checkNames name schema (withDefaults schema given)).bind fun _ =>
          (normalizeSlots types (withDefaults schema given) slots).result := by
  rw [validate, validateEntries, Traced.result_bind, buildSlots_result]
  cases schema.entries.mapM (slotOf filters) with
  | error error => rfl
  | ok slots =>
    simp only [Except.bind, Traced.result_bind, Traced.result_ofExcept, Traced.result_emit,
      Traced.result_pure]
    cases checkNames name schema (withDefaults schema given) with
    | error error => rfl
    | ok _ =>
      simp only
      cases (normalizeSlots types (withDefaults schema given) slots).result <;> rfl

theorem validate_checked (types : TypeTable) (name : String) {given : Arguments}
    {slots : List Slot} (filtersBuilt : schema.entries.mapM (slotOf filters) = .ok slots)
    (complete : lacking schema given = []) (known : foreign schema given = []) :
    (validate types filters name schema (.map given)).result =
      (normalizeSlots types (withDefaults schema given) slots).result := by
  rw [validate_map_result, filtersBuilt]
  simp only [Except.bind, checkNames_ok name complete known]

end ArgCheck.Validation
