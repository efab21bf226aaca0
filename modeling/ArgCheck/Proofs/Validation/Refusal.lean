import ArgCheck.Proofs.Filter.Processing
import ArgCheck.Proofs.Validation.Pointwise

set_option autoImplicit false

/-!
# What a validation refuses

Four things are checked of the arguments as a whole, each only when those before it were in order: the
shape of the call, the filters, the missing names and the unknown ones. `validate_refusals` gives the
error of each, to the name, and says that none of them can come out of the arguments afterwards.
-/

namespace ArgCheck

namespace ErrorKind

def structural : List ErrorKind :=
  [.invalidCallShape, .unknownFilterType, .missingArguments, .unknownArguments]

theorem notMem_structural {kind : ErrorKind} (h : kind ∈ ofProcessing) : kind ∉ structural := by
  revert kind
  decide

end ErrorKind

namespace Validation

variable {types : TypeTable} {filters : FilterTable} {name : String} {schema : Schema}
  {given : Arguments}

theorem validate_other {value : Value} (h : ∀ given, value ≠ .map given) :
    (validate types filters name schema value).result = .error (.callShape name schema.names) := by
  cases value with
  | map given => exact absurd rfl (h given)
  | _ => rfl

theorem failsFirst_slotOf (entries : List (String × Argument)) (error : ArgumentError) :
    Sequence.FailsFirst (slotOf filters) entries error ↔
      Sequence.FailsFirst (fun entry => (filters.build entry.1 entry.2.options).result)
        entries error := by
  unfold slotOf
  exact Sequence.failsFirst_map_iff _ _ entries error

theorem coerceChecked_error_kind {t : TypeId} {value : Value} {error : ArgumentError}
    (fails : coerceChecked types t name value = .error error) :
    error.kind ∈ ErrorKind.ofProcessing := by
  simp only [coerceChecked] at fails
  split at fails
  · cases fails
  · cases fails
    simp [ErrorKind.ofProcessing, ArgumentError.kind]

theorem normalize_error_kind {slot : Slot} (orderly : slot.filter.Orderly) {value : Value}
    {error : ArgumentError} (fails : (normalize types slot value).result = .error error) :
    error.kind ∈ ErrorKind.ofProcessing := by
  unfold normalize at fails
  split at fails
  · cases fails
  · split at fails
    · cases fails
    · rw [Traced.result_bind] at fails
      exact coerceChecked_error_kind fails
    · rw [Traced.result_bind] at fails
      exact orderly _ _ fails

theorem orderly_error_kind {slots : List Slot} (orderly : ∀ slot ∈ slots, slot.filter.Orderly)
    {error : ArgumentError} (fails : (normalizeSlots types given slots).result = .error error) :
    error.kind ∈ ErrorKind.ofProcessing := by
  obtain ⟨slot, member, value, failing⟩ := normalizeSlots_error fails
  exact normalize_error_kind (orderly slot member) failing

theorem normalizeSlots_error_kind (plain : filters.CustomFree) {slots : List Slot}
    (filtersBuilt : schema.entries.mapM (slotOf filters) = .ok slots) {error : ArgumentError}
    (fails : (normalizeSlots types given slots).result = .error error) :
    error.kind ∈ ErrorKind.ofProcessing := by
  refine orderly_error_kind ?_ fails
  intro slot member
  obtain ⟨entry, _, made⟩ := Sequence.exists_of_mapM_ok filtersBuilt member
  exact (plain.built ((slotOf_ok_iff _ _).mp made).2.2).orderly

/-- The checks in their order, and that they are over when the values are looked at. -/
theorem validate_refusals (types : TypeTable) (filters : FilterTable) (plain : filters.CustomFree)
    (name : String) (schema : Schema) :
    (∀ value : Value, (∀ given, value ≠ .map given) →
      (validate types filters name schema value).result =
        .error (.callShape name schema.names)) ∧
    ∀ given : Arguments,
      (∀ error, Sequence.FailsFirst (fun entry : String × Argument =>
          (filters.build entry.1 entry.2.options).result) schema.entries error →
        (validate types filters name schema (.map given)).result = .error error) ∧
      ((∀ entry ∈ schema.entries,
          ∃ filter, (filters.build entry.1 entry.2.options).result = .ok filter) →
        (lacking schema given ≠ [] →
          (validate types filters name schema (.map given)).result =
            .error (.missingArguments name (lacking schema given))) ∧
        (lacking schema given = [] → foreign schema given ≠ [] →
          (validate types filters name schema (.map given)).result =
            .error (.unknownArguments name (foreign schema given))) ∧
        (lacking schema given = [] → foreign schema given = [] → ∀ error,
          (validate types filters name schema (.map given)).result = .error error →
            error.kind ∉ ErrorKind.structural)) := by
  refine ⟨fun value other => validate_other other, ?_⟩
  intro given
  have run := validate_map_result types filters name schema given
  rw [checkNames_withDefaults] at run
  constructor
  · intro error first
    have slotFails := (Sequence.mapM_error_iff _ _ _).mpr ((failsFirst_slotOf _ _).mpr first)
    rw [run, slotFails]
    rfl
  · intro builds
    obtain ⟨slots, filtersBuilt⟩ := mapM_slotOf_ok builds
    rw [filtersBuilt] at run
    refine ⟨?_, ?_, ?_⟩
    · intro missing
      rw [run, if_pos missing]
      rfl
    · intro complete unknown
      rw [run, if_neg (not_not.mpr complete), if_pos unknown]
      rfl
    · intro complete known error fails
      rw [validate_checked types name filtersBuilt complete known] at fails
      exact ErrorKind.notMem_structural (normalizeSlots_error_kind plain filtersBuilt fails)

theorem validate_refusals_order :
    (validate integerHandled .standard "order" order (.array [])).result =
        .error (.callShape "order" ["count", "unit", "note", "label"]) ∧
      (validate integerHandled .standard "order" order (.map [("size", .int 1)])).result =
        .error (.missingArguments "order" ["count"]) ∧
      (validate integerHandled .standard "order" order
          (.map [("size", .int 1), ("count", .null), ("colour", .null)])).result =
        .error (.unknownArguments "order" ["size", "colour"]) := by
  have refusals := validate_refusals integerHandled .standard FilterTable.customFree_standard
    "order" order
  refine ⟨?_, ?_, ?_⟩
  · exact refusals.1 (.array []) (by simp)
  · exact ((refusals.2 [("size", .int 1)]).2 order_builds).1 (by decide)
  · exact ((refusals.2 [("size", .int 1), ("count", .null), ("colour", .null)]).2
      order_builds).2.1 (by decide) (by decide)

end Validation

end ArgCheck
