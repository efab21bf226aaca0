import ArgCheck.Proofs.Filter.Building
import ArgCheck.Proofs.Sequence

set_option autoImplicit false

/-!
# What filters make of a value

The results of `process`, level by level: a type without items casts what it does not accept, and a
container hands each of its items on, up to the first failure. Whatever value comes, a filter without
custom kinds fails only with the kinds of `ErrorKind.ofProcessing`.
-/

namespace ArgCheck

namespace ErrorKind

def ofProcessing : List ErrorKind :=
  [.invalidArgumentType, .entityNotFound, .unresolvableEntityClass, .entityStore]

end ErrorKind

namespace ArgumentError

def argument? : ArgumentError → Option String
  | .argumentType argument _ => some argument
  | .entityNotFound argument _ _ => some argument
  | .unresolvableClass argument _ => some argument
  | .storeUnavailable argument _ => some argument
  | .storeFailure argument _ => some argument
  | _ => none

theorem kind_of_argument? {error : ArgumentError} {argument : String}
    (h : error.argument? = some argument) : error.kind ∈ ErrorKind.ofProcessing := by
  cases error <;> simp [argument?, kind, ErrorKind.ofProcessing] at h ⊢

end ArgumentError

namespace Filter

theorem processBuiltin_result (b : Builtin) (base : FilterBase) (value : Value) :
    (processBuiltin b base value).result =
      if value.isNull || b.accepts value then .ok value
      else match b.cast? value with
        | some canonical => .ok canonical
        | none => .error (.argumentType base.name b.name) := by
  unfold processBuiltin castBuiltin
  split
  · rfl
  · cases b.cast? value <;> rfl

theorem processItems_result (process : Value → Traced ArgumentError Value) (items : List Value) :
    (processItems process items).result = items.mapM fun item => (process item).result := by
  induction items with
  | nil => rfl
  | cons item rest ih =>
    rw [processItems, List.mapM_cons, ← ih]
    simp only [Traced.result_bind, Traced.result_pure]
    rfl

theorem processEntries_result (process : Value → Traced ArgumentError Value)
    (entries : List (String × Value)) :
    (processEntries process entries).result =
      entries.mapM fun entry => (process entry.2).result.map fun item => (entry.1, item) := by
  induction entries with
  | nil => rfl
  | cons entry rest ih =>
    obtain ⟨key, item⟩ := entry
    rw [processEntries, List.mapM_cons, ← ih]
    simp only [Traced.result_bind, Traced.result_pure]
    cases (process item).result <;> rfl

theorem process_plain (b : Builtin) (base : FilterBase) (value : Value) :
    (Filter.builtin b base none).process value = processBuiltin b base value := by
  cases b <;> rfl

theorem process_array (base : FilterBase) (item : Filter) (value : Value) :
    ((Filter.builtin .array base (some item)).process value).result = match value with
      | .null => .ok .null
      | .array items => (items.mapM fun value => (item.process value).result).map .array
      | _ => .error (.argumentType base.name Builtin.array.name) := by
  cases value with
  | array items => rw [process, Traced.result_map, processItems_result]
  | _ => rfl

theorem process_hash (base : FilterBase) (item : Filter) (value : Value) :
    ((Filter.builtin .hash base (some item)).process value).result = match value with
      | .null => .ok .null
      | .map entries =>
        (entries.mapM fun entry =>
          (item.process entry.2).result.map fun value => (entry.1, value)).map .map
      | _ => .error (.argumentType base.name Builtin.hash.name) := by
  cases value with
  | map entries => rw [process, Traced.result_map, processEntries_result]
  | _ => rfl

theorem processBuiltin_error {b : Builtin} {base : FilterBase} {value : Value}
    {error : ArgumentError} (h : (processBuiltin b base value).result = .error error) :
    error = .argumentType base.name b.name := by
  rw [processBuiltin_result] at h
  split at h
  · cases h
  · cases hc : b.cast? value with
    | some canonical => simp [hc] at h
    | none =>
      simp only [hc, Except.error.injEq] at h
      exact h.symm

end Filter

namespace RecordFilter

variable {filter : RecordFilter} {c : EntityClass} {value : Value} {error : ArgumentError}

theorem recordClass_error_argument (h : filter.recordClass = .error error) :
    error.argument? = some filter.base.name := by
  unfold recordClass at h
  split at h
  · split at h <;> cases h
    rfl
  · cases h
  · cases h
    rfl
  · cases h
    rfl

theorem find_error_argument {id : EntityId} (h : (filter.find c id).result = .error error) :
    error.argument? = some filter.base.name := by
  unfold find answer at h
  split at h
  · cases h
    rfl
  · split at h <;> cases h <;> rfl

theorem castIn_error_argument (h : (filter.castIn c value).result = .error error) :
    error.argument? = some filter.base.name := by
  unfold castIn at h
  split at h
  · exact find_error_argument h
  · cases h
    rfl

theorem accepts_iff (hc : filter.recordClass = .ok c) (value : Value) :
    filter.accepts value = true ↔ ∃ e, value = .entity e ∧ e.isA c = true := by
  unfold accepts
  rw [hc]
  cases value <;> simp

/-- Past null, the class comes first and the value's own shape after it. -/
theorem process_result (h : value ≠ .null) :
    (filter.process value).result = filter.recordClass.bind fun c =>
      if filter.accepts value then .ok value else (filter.castIn c value).result := by
  have hn : value.isNull = false := by
    cases value <;> first | rfl | exact absurd rfl h
  unfold process
  rw [hn]
  simp only [Bool.false_eq_true, if_false, Traced.result_bind, Traced.result_ofExcept]
  cases hc : filter.recordClass with
  | error error => rfl
  | ok c =>
    simp only [Except.bind]
    cases value with
    | entity e =>
      simp only [accepts, hc]
      split <;> rfl
    | _ => rfl

/-- Whatever goes wrong with a record, the argument is named. -/
theorem process_error_argument (h : (filter.process value).result = .error error) :
    error.argument? = some filter.base.name := by
  by_cases hn : value = .null
  · subst hn
    cases h
  · rw [process_result hn, Sequence.bind_error_iff] at h
    rcases h with hc | ⟨c, hc, h⟩
    · exact recordClass_error_argument hc
    · split at h
      · cases h
      · exact castIn_error_argument h

/-- Only a store's answer comes out of a look-up. -/
theorem castIn_ok {result : Value} (h : (filter.castIn c value).result = .ok result) :
    ∃ store id e, filter.store = some store ∧ value.entityId? = some id ∧
      store.findById c id = .ok (some e) ∧ result = .entity e := by
  unfold castIn find answer at h
  cases hi : value.entityId? with
  | none => simp [hi] at h
  | some id =>
    cases hs : filter.store with
    | none => simp [hi, hs] at h
    | some store =>
      simp only [hi, hs] at h
      split at h
      · rename_i e he
        exact ⟨store, id, e, rfl, rfl, he, (Except.ok.inj h).symm⟩
      · cases h
      · cases h

end RecordFilter

/-- Whatever value comes, an error of the filter is of a kind that values bring about. -/
def Filter.Orderly (filter : Filter) : Prop :=
  ∀ value error, (filter.process value).result = .error error →
    error.kind ∈ ErrorKind.ofProcessing

namespace FilterTable

variable {table : FilterTable}

theorem Built.process_error_kind {name : String} {options : Options} {filter : Filter}
    (built : Built table name options filter) {value : Value} {error : ArgumentError}
    (h : (filter.process value).result = .error error) : error.kind ∈ ErrorKind.ofProcessing := by
  induction built generalizing value with
  | plain kind bare =>
    rw [Filter.process_plain] at h
    rw [Filter.processBuiltin_error h]
    simp [ErrorKind.ofProcessing, ArgumentError.kind]
  | array kind items below ih =>
    rw [Filter.process_array] at h
    split at h
    · cases h
    · rw [Sequence.map_error_iff, Sequence.mapM_error_iff] at h
      obtain ⟨_, failing, _, _, _, fails⟩ := h
      exact ih fails
    · cases h
      simp [ErrorKind.ofProcessing, ArgumentError.kind]
  | hash kind items below ih =>
    rw [Filter.process_hash] at h
    split at h
    · cases h
    · rw [Sequence.map_error_iff, Sequence.mapM_error_iff] at h
      obtain ⟨_, failing, _, _, _, fails⟩ := h
      exact ih ((Sequence.map_error_iff _ _ _).mp fails)
    · cases h
      simp [ErrorKind.ofProcessing, ArgumentError.kind]
  | record kind => exact ArgumentError.kind_of_argument? (RecordFilter.process_error_argument h)

theorem Built.orderly {name : String} {options : Options} {filter : Filter}
    (built : Built table name options filter) : filter.Orderly :=
  fun _ _ fails => built.process_error_kind fails

end FilterTable

end ArgCheck
