import ArgCheck.Validation

set_option autoImplicit false

/-!
# Filling in defaults

Filling in defaults gives an absent argument its standby value and changes nothing else
(`lookup_withDefaults`). So the names that are missing or unknown afterwards can be told from the
schema and the arguments given alone (`missing_withDefaults`, `unknown_withDefaults`).
-/

namespace ArgCheck

/-- What stands in for an argument that was left out. -/
def Argument.standby (argument : Argument) : Option Value :=
  if argument.isOptional then none else argument.default?

namespace Schema

variable {schema : Schema} {name : String} {argument : Argument}

theorem nodup_names (schema : Schema) : schema.names.Nodup := schema.arguments.distinct

theorem get?_of_mem (h : (name, argument) ∈ schema.entries) : schema.get? name = some argument :=
  Entries.lookup_of_mem schema.arguments.distinct h

theorem contains_iff : schema.contains name = true ↔ name ∈ schema.names :=
  Table.contains_iff schema.arguments name

theorem namesWhere_congr {p q : String → Argument → Bool}
    (h : ∀ entry ∈ schema.entries, p entry.1 entry.2 = q entry.1 entry.2) :
    schema.namesWhere p = schema.namesWhere q := by
  unfold namesWhere
  rw [List.filter_congr h]

theorem namesWhere_eq_nil_iff {p : String → Argument → Bool} :
    schema.namesWhere p = [] ↔ ∀ entry ∈ schema.entries, p entry.1 entry.2 = false := by
  simp [namesWhere, Entries.keys, List.filter_eq_nil_iff]

theorem mem_namesWhere_iff {entry : String × Argument} (declared : entry ∈ schema.entries)
    {p : String → Argument → Bool} :
    entry.1 ∈ schema.namesWhere p ↔ p entry.1 entry.2 = true := by
  constructor
  · intro member
    obtain ⟨other, found, name⟩ := List.mem_map.mp member
    obtain ⟨known, holds⟩ := List.mem_filter.mp found
    -- a name stands for one argument of the schema only
    have same : schema.get? other.1 = some other.2 := get?_of_mem known
    rw [name, get?_of_mem declared, Option.some.injEq] at same
    rwa [same, ← name]
  · intro holds
    exact List.mem_map.mpr ⟨entry, List.mem_filter.mpr ⟨declared, holds⟩, rfl⟩

end Schema

namespace Validation

theorem lookup_addDefault (given : Arguments) (entry : String × Argument) (key : String) :
    Entries.lookup key (addDefault given entry) =
      if entry.1 = key then (Entries.lookup key given).or entry.2.standby
      else Entries.lookup key given := by
  obtain ⟨name, argument⟩ := entry
  unfold addDefault Argument.standby Entries.contains
  by_cases hk : name = key
  · subst hk
    cases hl : Entries.lookup name given with
    | some value => simp [hl]
    | none =>
      cases argument.isOptional with
      | true => simp [hl]
      | false =>
        cases argument.default? with
        | none => simp [hl]
        | some default => simp [Entries.lookup_insert]
  · simp only [hk, if_false]
    split
    · rfl
    · split
      · rw [Entries.lookup_insert, if_neg hk]
      · rfl

theorem keys_addDefault (given : Arguments) (entry : String × Argument) :
    Entries.keys (addDefault given entry) = Entries.keys given ∨
      Entries.keys (addDefault given entry) = Entries.keys given ++ [entry.1] := by
  unfold addDefault
  split
  · exact .inl rfl
  · split
    · rw [Entries.keys_insert]
      split
      · exact .inl rfl
      · exact .inr rfl
    · exact .inl rfl

theorem lookup_foldl_addDefault {entries : Entries String Argument} (distinct : entries.keys.Nodup)
    (given : Arguments) (key : String) :
    Entries.lookup key (entries.foldl addDefault given) =
      (Entries.lookup key given).or ((Entries.lookup key entries).bind Argument.standby) := by
  induction entries generalizing given with
  | nil => simp [Entries.lookup]
  | cons entry rest ih =>
    simp only [Entries.keys_cons, List.nodup_cons] at distinct
    rw [List.foldl_cons, ih distinct.2, lookup_addDefault]
    obtain ⟨name, argument⟩ := entry
    by_cases hk : name = key
    · subst hk
      -- no later entry of the schema can fill the same name in once more
      have absent := (Entries.lookup_eq_none name rest).mpr distinct.1
      simp [Entries.lookup, absent]
    · simp [Entries.lookup, hk]

theorem lookup_withDefaults (schema : Schema) (given : Arguments) (key : String) :
    Entries.lookup key (withDefaults schema given) =
      (Entries.lookup key given).or ((schema.get? key).bind Argument.standby) :=
  lookup_foldl_addDefault schema.arguments.distinct given key

theorem nodup_keys_withDefaults (schema : Schema) {given : Arguments}
    (distinct : (Entries.keys given).Nodup) :
    (Entries.keys (withDefaults schema given)).Nodup := by
  refine List.foldlRecOn schema.entries addDefault
    (motive := fun given => (Entries.keys given).Nodup) distinct ?_
  intro given distinct entry _
  unfold addDefault
  split
  · exact distinct
  · split
    · exact Entries.nodup_keys_insert distinct _ _
    · exact distinct

/-- The required arguments that are absent and have nothing to stand in for them. -/
def lacking (schema : Schema) (given : Arguments) : List String :=
  schema.namesWhere fun name argument =>
    !argument.isOptional && !Entries.contains name given && argument.default?.isNone

theorem lacking_eq_nil_iff (schema : Schema) (given : Arguments) :
    lacking schema given = [] ↔ ∀ entry ∈ schema.entries, entry.2.isOptional = false →
      entry.1 ∈ Entries.keys given ∨ entry.2.default?.isSome = true := by
  unfold lacking
  rw [Schema.namesWhere_eq_nil_iff]
  refine forall₂_congr ?_
  intro entry _
  cases entry.2.isOptional <;> cases entry.2.default? <;>
    simp [Entries.contains, Entries.lookup_isSome]

theorem missing_withDefaults (schema : Schema) (given : Arguments) :
    missing schema (withDefaults schema given) = lacking schema given := by
  refine Schema.namesWhere_congr ?_
  rintro ⟨name, argument⟩ member
  have declared := Schema.get?_of_mem member
  unfold Entries.contains
  rw [lookup_withDefaults, declared]
  cases ho : argument.isOptional with
  | true => rfl
  | false =>
    cases Entries.lookup name given <;> cases hd : argument.default? <;>
      simp [Argument.standby, ho, hd]

def foreign (schema : Schema) (given : Arguments) : List String :=
  (Entries.keys given).filter fun name => name ∉ schema.names

theorem foreign_eq_nil_iff (schema : Schema) (given : Arguments) :
    foreign schema given = [] ↔ ∀ key ∈ Entries.keys given, key ∈ schema.names := by
  simp [foreign, List.filter_eq_nil_iff]

theorem unknown_withDefaults (schema : Schema) (given : Arguments) :
    unknown schema (withDefaults schema given) = foreign schema given := by
  have same : ∀ given, unknown schema given = foreign schema given := by
    intro given
    refine List.filter_congr ?_
    intro name _
    rw [Bool.eq_iff_iff]
    simp [← Schema.contains_iff]
  rw [same]
  refine List.foldlRecOn schema.entries addDefault
    (motive := fun filled => foreign schema filled = foreign schema given) rfl ?_
  intro filled ih entry member
  rw [← ih]
  unfold foreign
  have declared : entry.1 ∈ schema.names := List.mem_map_of_mem member
  rcases keys_addDefault filled entry with h | h
  · rw [h]
  · rw [h, List.filter_append]
    simp [declared]

end Validation

end ArgCheck
