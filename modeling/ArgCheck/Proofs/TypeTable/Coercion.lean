import ArgCheck.Proofs.Numeral.Padding
import ArgCheck.TypeTable.Basic

set_option autoImplicit false

/-!
# Lenient coercion

A builtin handler gives a valid value or the very value that it was given, and leaves alone what is valid,
so that coercing twice is coercing once; which texts become integers is said by the way in which a number
is written (`TypeHandler.builtins_lenient`). A table whose types have no coercers of their own and only
builtin handlers coerces once and for all in the same way, whatever its validators are.
-/

namespace ArgCheck

namespace TypeHandler

/-- Coercing gives a valid value or leaves the value as it was, as it does with every valid one. -/
structure IsLenient (handler : TypeHandler) : Prop where
  whole : ∀ value, handler.valid (handler.coerce value) = true ∨ handler.coerce value = value
  keeps : ∀ value, handler.valid value = true → handler.coerce value = value

theorem IsLenient.idempotent {handler : TypeHandler} (lenient : handler.IsLenient) (value : Value) :
    handler.coerce (handler.coerce value) = handler.coerce value := by
  rcases lenient.whole value with valid | same
  · exact lenient.keeps _ valid
  · rw [same, same]

theorem isLenient_string : string.IsLenient := by
  constructor
  · intro value
    cases value <;> exact .inl rfl
  · intro value valid
    cases value with
    | string s => rfl
    | _ => cases valid

theorem isLenient_integer : integer.IsLenient := by
  constructor
  · intro value
    cases value with
    | string s =>
      simp only [integer, coerceInteger]
      cases Numeral.int64? (Text.trim s.toList) with
      | some n => exact .inl rfl
      | none => exact .inr rfl
    | _ => exact .inr rfl
  · intro value valid
    cases value with
    | int n => rfl
    | _ => cases valid

theorem isLenient_float : float.IsLenient := by
  constructor
  · intro value
    cases value with
    | int n => exact .inl rfl
    | decimal d => exact .inl rfl
    | string s =>
      simp only [float, coerceFloat]
      cases Binary64.read? (Text.trim s.toList) with
      | some x => exact .inl rfl
      | none => exact .inr rfl
    | _ => exact .inr rfl
  · intro value valid
    cases value with
    | float x => rfl
    | _ => cases valid

theorem isLenient_boolean : boolean.IsLenient := by
  constructor
  · intro value
    simp only [boolean, coerceBoolean]
    cases value.flag? with
    | some b => exact .inl rfl
    | none => exact .inr rfl
  · intro value valid
    cases value with
    | bool b => rfl
    | _ => cases valid

theorem isLenient_of_builtin {handler : TypeHandler} (h : handler ∈ builtins.map Prod.snd) :
    handler.IsLenient := by
  simp only [builtins, List.map_cons, List.map_nil, List.mem_cons, List.not_mem_nil, or_false] at h
  rcases h with rfl | rfl | rfl | rfl
  · exact isLenient_string
  · exact isLenient_integer
  · exact isLenient_float
  · exact isLenient_boolean

end TypeHandler

namespace TypeTable

variable {table : TypeTable}

structure Lenient (table : TypeTable) : Prop where
  coercers : ∀ forms ∈ table.entries.values, forms.coercer = none
  handlers : ∀ forms ∈ table.entries.values, ∀ handler, forms.handler = some handler →
    handler ∈ TypeHandler.builtins.map Prod.snd

theorem lenient_empty : empty.Lenient := by
  constructor
  · intro forms member
    cases member
  · intro forms member
    cases member

theorem Lenient.forms (lenient : table.Lenient) (t : TypeId) :
    (table.forms t).coercer = none ∧ ∀ handler, (table.forms t).handler = some handler →
      handler ∈ TypeHandler.builtins.map Prod.snd := by
  unfold TypeTable.forms
  cases hf : table.entries.get? t.key with
  | none =>
    refine ⟨rfl, ?_⟩
    intro handler h
    cases h
  | some found =>
    have member := Table.mem_values_of_get? hf
    exact ⟨lenient.coercers found member, lenient.handlers found member⟩

theorem Lenient.add (lenient : table.Lenient) (t : TypeId) {newer : TypeForms}
    (coercer : newer.coercer = none)
    (handler : ∀ h, newer.handler = some h → h ∈ TypeHandler.builtins.map Prod.snd) :
    (table.add t newer).Lenient := by
  unfold TypeTable.add
  split
  · exact lenient
  · obtain ⟨none_before, builtin_before⟩ := lenient.forms t
    refine ⟨?_, ?_⟩
    · intro forms member
      rcases Table.mem_values_insert member with rfl | member
      · simp [TypeForms.merge, coercer, none_before]
      · exact lenient.coercers forms member
    · intro forms member h hh
      rcases Table.mem_values_insert member with rfl | member
      · rcases Option.or_eq_some_iff.mp hh with new | ⟨-, old⟩
        · exact handler h new
        · exact builtin_before h old
      · exact lenient.handlers forms member h hh

theorem Lenient.coerce_idempotent (lenient : table.Lenient) (t : TypeId) (value : Value) :
    table.coerce t (table.coerce t value) = table.coerce t value := by
  obtain ⟨coercer, builtin⟩ := lenient.forms t
  unfold coerce
  simp only [coercer]
  cases hh : (table.forms t).handler with
  | none => rfl
  | some handler => exact (TypeHandler.isLenient_of_builtin (builtin handler hh)).idempotent value

end TypeTable

end ArgCheck
