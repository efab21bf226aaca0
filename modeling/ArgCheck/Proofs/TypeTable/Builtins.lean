import ArgCheck.Proofs.Filter.Processing
import ArgCheck.Proofs.Text.Separators
import ArgCheck.TypeTable.Basic

set_option autoImplicit false

/-!
# Builtin handlers beside builtin filters

The four builtin handlers and the filters of their types convert values on two separate ways. The
two agree on texts and booleans altogether. On integers the filter casts more (`OnlyCast`), and on
floats it lets an integer stand that the handler converts; nowhere else do they differ.
-/

namespace ArgCheck

namespace TypeTable

def builtins : TypeTable :=
  TypeHandler.builtins.foldl
    (fun table pair => table.add (.builtin pair.1) { handler := some pair.2 }) empty

theorem registerHandlers_result {ε : Type} (table : TypeTable)
    (handlers : List (Builtin × TypeHandler)) :
    (table.registerHandlers handlers : Traced ε TypeTable).result =
      .ok (handlers.foldl
        (fun table pair => table.add (.builtin pair.1) { handler := some pair.2 }) table) := by
  induction handlers generalizing table with
  | nil => rfl
  | cons pair rest ih =>
    obtain ⟨b, handler⟩ := pair
    rw [registerHandlers, Traced.result_bind]
    exact ih _

theorem registerBuiltins_empty {ε : Type} :
    (empty.registerBuiltins : Traced ε TypeTable).result = .ok builtins :=
  registerHandlers_result empty TypeHandler.builtins

theorem forms_builtins (t : TypeId) : builtins.forms t = match t with
    | .builtin b => { handler := Entries.lookup b TypeHandler.builtins }
    | .entity _ => {} := by
  cases t with
  | builtin b => cases b <;> rfl
  | entity c => rfl

end TypeTable

namespace Value

/-- What a filter may cast to an integer, and the handler of integers never coerces to one. -/
def OnlyCast : Value → Prop
  | .float _ => True
  | .decimal _ => True
  | .string s => '_' ∈ s.toList
  | _ => False

theorem isNull_eq_false {value : Value} (h : value ≠ .null) : value.isNull = false := by
  rw [Bool.eq_false_iff, ne_eq, isNull_iff]
  exact h

end Value

namespace TypeHandler

def checked (handler : TypeHandler) (name : String) (b : Builtin) (value : Value) :
    Except ArgumentError Value :=
  if handler.valid (handler.coerce value) then .ok (handler.coerce value)
  else .error (.argumentType name b.name)

variable {base : FilterBase} {value : Value}

theorem checked_string (null : value ≠ .null) :
    string.checked base.name .string value =
      (Filter.processBuiltin .string base value).result := by
  cases value with
  | null => exact absurd rfl null
  | _ => rfl

theorem checked_boolean (null : value ≠ .null) :
    boolean.checked base.name .boolean value =
      (Filter.processBuiltin .boolean base value).result := by
  have same : Builtin.boolean.isInstance value = Builtin.boolean.accepts value := by
    cases value <;> rfl
  rw [Filter.processBuiltin_result, Value.isNull_eq_false null]
  cases accepted : Builtin.boolean.accepts value with
  | true =>
    cases value with
    | bool b => rfl
    | _ => cases accepted
  | false =>
    rw [accepted] at same
    cases flagged : value.flag? with
    | some b =>
      simp only [checked, boolean, coerceBoolean, Builtin.cast?, flagged]
      rfl
    | none =>
      simp only [checked, boolean, coerceBoolean, Builtin.cast?, flagged, same]
      rfl

theorem checked_of_onlyCast (name : String) (h : value.OnlyCast) :
    integer.checked name .integer value = .error (.argumentType name "Integer") := by
  cases value with
  | float x => rfl
  | decimal d => rfl
  | string s =>
    have unread := Numeral.int64?_of_underscore ((Text.mem_trim_iff (by decide) s.toList).mpr h)
    simp only [checked, integer, coerceInteger, unread]
    rfl
  | _ => cases h

theorem checked_integer (null : value ≠ .null) (h : ¬ value.OnlyCast) :
    integer.checked base.name .integer value =
      (Filter.processBuiltin .integer base value).result := by
  rw [Filter.processBuiltin_result]
  cases value with
  | null => exact absurd rfl null
  | float x => exact absurd trivial h
  | decimal d => exact absurd trivial h
  | string s =>
    have alike := Numeral.separatedInt64?_of_notMem
      (mt (Text.mem_trim_iff (by decide) s.toList).mp h)
    cases read : Numeral.int64? (Text.trim s.toList) <;>
      simp only [checked, integer, coerceInteger, Builtin.cast?, Builtin.castInteger?,
        Builtin.trimmed, alike, read] <;> rfl
  | _ => rfl

theorem checked_float (null : value ≠ .null) (other : ∀ n, value ≠ .int n)
    (finite : ∀ d, value = .decimal d → d.toFloat.isFinite = true) :
    float.checked base.name .float value =
      (Filter.processBuiltin .float base value).result := by
  rw [Filter.processBuiltin_result]
  cases value with
  | null => exact absurd rfl null
  | int n => exact absurd rfl (other n)
  | decimal d =>
    -- the filter alone asks whether the conversion is finite
    simp only [checked, float, coerceFloat, Builtin.cast?, Builtin.castFloat?, Option.filter_some,
      finite d rfl]
    rfl
  | string s =>
    cases read : Binary64.read? (Text.trim s.toList) <;>
      simp only [checked, float, coerceFloat, Builtin.cast?, Builtin.castFloat?, Builtin.trimmed,
        read] <;> rfl
  | _ => rfl

/-- Where a handler and the filter of its type agree. -/
theorem checked_eq_processBuiltin (base : FilterBase) {b : Builtin} {handler : TypeHandler}
    (handled : Entries.lookup b builtins = some handler) (null : value ≠ .null)
    (lenient : b = .integer → ¬ value.OnlyCast) (kept : b = .float → ∀ n, value ≠ .int n)
    (finite : b = .float → ∀ d, value = .decimal d → d.toFloat.isFinite = true) :
    handler.checked base.name b value = (Filter.processBuiltin b base value).result := by
  cases b with
  | string =>
    cases handled
    exact checked_string null
  | integer =>
    cases handled
    exact checked_integer null (lenient rfl)
  | float =>
    cases handled
    exact checked_float null (kept rfl) (finite rfl)
  | boolean =>
    cases handled
    exact checked_boolean null
  | _ => cases handled

theorem itemsOf_handled {b : Builtin} {handler : TypeHandler}
    (handled : Entries.lookup b builtins = some handler) (options : Options) :
    options.itemsOf b = none := by
  cases b with
  | array | hash => cases handled
  | _ => rfl

end TypeHandler

end ArgCheck
