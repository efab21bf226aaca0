set_option autoImplicit false

/-!
# Ordered tables

Entries stand in the order in which their keys first came. Writing under a key that is present
replaces the value and keeps the place; writing under a new key appends. `Entries` are plain lists
of pairs, for use inside other data; a `Table` also carries the proof that its keys are distinct.
The lemmas say what each operation does to the list of keys and to `lookup`.
-/

namespace ArgCheck

abbrev Entries (κ α : Type) := List (κ × α)

namespace Entries

variable {κ α β : Type}

def keys (entries : Entries κ α) : List κ := entries.map Prod.fst

@[simp] theorem keys_nil : keys ([] : Entries κ α) = [] := rfl

@[simp] theorem keys_cons (entry : κ × α) (rest : Entries κ α) :
    keys (entry :: rest) = entry.1 :: keys rest := rfl

@[simp] theorem keys_append (first second : Entries κ α) :
    keys (first ++ second) = keys first ++ keys second := List.map_append

def mapValues (f : α → β) (entries : Entries κ α) : Entries κ β :=
  entries.map fun entry => (entry.1, f entry.2)

@[simp] theorem keys_mapValues (f : α → β) (entries : Entries κ α) :
    keys (mapValues f entries) = keys entries := by
  simp [keys, mapValues]

variable [DecidableEq κ]

def lookup (key : κ) : Entries κ α → Option α
  | [] => none
  | (k, value) :: rest => if k = key then some value else lookup key rest

def contains (key : κ) (entries : Entries κ α) : Bool := (lookup key entries).isSome

/-- A present key keeps its place and takes the new value. -/
def insert (key : κ) (value : α) : Entries κ α → Entries κ α
  | [] => [(key, value)]
  | (k, old) :: rest =>
    if k = key then (k, value) :: rest else (k, old) :: insert key value rest

def erase (key : κ) (entries : Entries κ α) : Entries κ α :=
  entries.filter fun entry => entry.1 ≠ key

/-- Takes the entry under the key out, and puts the last entry into its place. -/
def swapRemove (key : κ) : Entries κ α → Entries κ α
  | [] => []
  | (k, value) :: rest =>
    if k = key then
      match rest.getLast? with
      | some last => last :: rest.dropLast
      | none => []
    else (k, value) :: swapRemove key rest

/-- Writes the pairs one after the other, so a repeated key keeps its first place and its last
value. -/
def ofList (pairs : List (κ × α)) : Entries κ α :=
  pairs.foldl (fun entries pair => insert pair.1 pair.2 entries) []

theorem lookup_isSome (key : κ) (entries : Entries κ α) :
    (lookup key entries).isSome ↔ key ∈ keys entries := by
  induction entries with
  | nil => simp [lookup]
  | cons entry rest ih =>
    by_cases h : entry.1 = key
    · simp [lookup, h]
    · simp [lookup, h, ih, Ne.symm h]

theorem lookup_eq_none (key : κ) (entries : Entries κ α) :
    lookup key entries = none ↔ key ∉ keys entries := by
  rw [← lookup_isSome, Option.not_isSome_iff_eq_none]

theorem contains_iff (key : κ) (entries : Entries κ α) :
    contains key entries = true ↔ key ∈ keys entries := lookup_isSome key entries

theorem mem_of_lookup {key : κ} {value : α} {entries : Entries κ α}
    (h : lookup key entries = some value) : (key, value) ∈ entries := by
  induction entries with
  | nil => simp [lookup] at h
  | cons entry rest ih =>
    obtain ⟨k, old⟩ := entry
    by_cases hk : k = key
    · simp [lookup, hk] at h
      simp [hk, h]
    · simp [lookup, hk] at h
      simp [ih h]

theorem lookup_of_mem {key : κ} {value : α} {entries : Entries κ α}
    (distinct : (keys entries).Nodup) (h : (key, value) ∈ entries) :
    lookup key entries = some value := by
  induction entries with
  | nil => simp at h
  | cons entry rest ih =>
    simp only [keys_cons, List.nodup_cons] at distinct
    rcases List.mem_cons.mp h with h | h
    · subst h
      simp [lookup]
    · have hk : entry.1 ≠ key := by
        intro he
        apply distinct.1
        rw [he]
        exact List.mem_map.mpr ⟨(key, value), h, rfl⟩
      simp [lookup, hk, ih distinct.2 h]

theorem lookup_insert (key other : κ) (value : α) (entries : Entries κ α) :
    lookup other (insert key value entries) =
      if key = other then some value else lookup other entries := by
  induction entries with
  | nil => simp [insert, lookup]
  | cons entry rest ih =>
    obtain ⟨k, old⟩ := entry
    by_cases hk : k = key
    · subst hk
      by_cases ho : k = other <;> simp [insert, lookup, ho]
    · by_cases ho : k = other
      · subst ho
        simp [insert, lookup, hk, Ne.symm hk]
      · simp [insert, lookup, hk, ho, ih]

theorem keys_insert (key : κ) (value : α) (entries : Entries κ α) :
    keys (insert key value entries) =
      if key ∈ keys entries then keys entries else keys entries ++ [key] := by
  induction entries with
  | nil => simp [insert, keys]
  | cons entry rest ih =>
    obtain ⟨k, old⟩ := entry
    by_cases hk : k = key
    · simp [insert, hk]
    · by_cases hm : key ∈ keys rest
      · simp [insert, hk, ih, hm]
      · simp [insert, hk, ih, hm, Ne.symm hk]

theorem nodup_keys_insert {entries : Entries κ α} (distinct : (keys entries).Nodup) (key : κ)
    (value : α) : (keys (insert key value entries)).Nodup := by
  rw [keys_insert]
  by_cases h : key ∈ keys entries
  · simpa [h] using distinct
  · simp only [h, if_false]
    rw [List.nodup_append]
    refine ⟨distinct, by simp, ?_⟩
    intro a ha b hb heq
    simp only [List.mem_singleton] at hb
    exact h (by rw [← hb, ← heq]; exact ha)

theorem mem_insert {key : κ} {value : α} {entries : Entries κ α} {entry : κ × α}
    (h : entry ∈ insert key value entries) : entry.2 = value ∨ entry ∈ entries := by
  induction entries with
  | nil =>
    simp only [insert, List.mem_singleton] at h
    exact .inl (by rw [h])
  | cons first rest ih =>
    obtain ⟨k, old⟩ := first
    by_cases hk : k = key
    · simp only [insert, hk, if_true, List.mem_cons] at h
      rcases h with rfl | h
      · exact .inl rfl
      · exact .inr (by simp [h])
    · simp only [insert, hk, if_false, List.mem_cons] at h
      rcases h with rfl | h
      · exact .inr (by simp)
      · exact (ih h).imp_right fun member => by simp [member]

theorem insert_of_notMem {key : κ} (value : α) {entries : Entries κ α} (h : key ∉ keys entries) :
    insert key value entries = entries ++ [(key, value)] := by
  induction entries with
  | nil => rfl
  | cons entry rest ih =>
    obtain ⟨k, old⟩ := entry
    simp only [keys_cons, List.mem_cons, not_or] at h
    simp [insert, Ne.symm h.1, ih h.2]

theorem keys_erase (key : κ) (entries : Entries κ α) :
    keys (erase key entries) = (keys entries).filter fun k => k ≠ key := by
  simp [keys, erase, List.filter_map, Function.comp_def]

theorem nodup_keys_erase {entries : Entries κ α} (distinct : (keys entries).Nodup) (key : κ) :
    (keys (erase key entries)).Nodup := by
  rw [keys_erase]
  exact distinct.sublist List.filter_sublist

theorem lookup_erase (key other : κ) (entries : Entries κ α) :
    lookup other (erase key entries) = if key = other then none else lookup other entries := by
  induction entries with
  | nil => simp [erase, lookup]
  | cons entry rest ih =>
    obtain ⟨k, value⟩ := entry
    unfold erase at ih ⊢
    by_cases hk : k = key
    · subst hk
      by_cases ho : k = other
      · simpa [List.filter_cons, ho] using ih
      · simpa [List.filter_cons, lookup, ho] using ih
    · by_cases ho : k = other
      · subst ho
        simp [lookup, hk, Ne.symm hk]
      · simpa [List.filter_cons, lookup, hk, ho] using ih

theorem erase_of_notMem {key : κ} {entries : Entries κ α} (h : key ∉ keys entries) :
    erase key entries = entries := by
  refine List.filter_eq_self.mpr ?_
  intro entry member
  have hk : entry.1 ≠ key := by
    intro he
    exact h (he ▸ List.mem_map_of_mem member)
  simpa using hk

/-- Only the order tells the two ways of taking an entry out apart. -/
theorem swapRemove_perm {entries : Entries κ α} (distinct : (keys entries).Nodup) (key : κ) :
    (swapRemove key entries).Perm (erase key entries) := by
  induction entries with
  | nil => exact .nil
  | cons entry rest ih =>
    obtain ⟨k, value⟩ := entry
    simp only [keys_cons, List.nodup_cons] at distinct
    by_cases hk : k = key
    · subst hk
      have he : erase k ((k, value) :: rest) = rest := by
        simpa [erase] using erase_of_notMem distinct.1
      rw [he]
      simp only [swapRemove, if_true]
      cases hl : rest.getLast? with
      | none => simp [List.getLast?_eq_none_iff.mp hl]
      | some last =>
        obtain ⟨first, rfl⟩ := List.getLast?_eq_some_iff.mp hl
        simpa using (List.perm_append_singleton last first).symm
    · have he : erase key ((k, value) :: rest) = (k, value) :: erase key rest := by
        simp [erase, hk]
      rw [he]
      simpa only [swapRemove, hk, if_false] using (ih distinct.2).cons (k, value)

theorem nodup_keys_swapRemove {entries : Entries κ α} (distinct : (keys entries).Nodup)
    (key : κ) : (keys (swapRemove key entries)).Nodup :=
  ((swapRemove_perm distinct key).map Prod.fst).nodup_iff.mpr (nodup_keys_erase distinct key)

/-- With distinct keys the order of the entries does not count. -/
theorem lookup_perm {first second : Entries κ α} (h : first.Perm second)
    (distinct : (keys first).Nodup) (key : κ) : lookup key first = lookup key second := by
  cases hl : lookup key first with
  | none =>
    have absent : key ∉ keys first := (lookup_eq_none key first).mp hl
    refine ((lookup_eq_none key second).mpr ?_).symm
    intro present
    exact absent ((h.map Prod.fst).mem_iff.mpr present)
  | some value =>
    have member : (key, value) ∈ second := h.mem_iff.mp (mem_of_lookup hl)
    exact (lookup_of_mem ((h.map Prod.fst).nodup_iff.mp distinct) member).symm

theorem lookup_swapRemove {entries : Entries κ α} (distinct : (keys entries).Nodup)
    (key other : κ) :
    lookup other (swapRemove key entries) = if key = other then none else lookup other entries := by
  rw [lookup_perm (swapRemove_perm distinct key) (nodup_keys_swapRemove distinct key)]
  exact lookup_erase key other entries

theorem nodup_keys_foldl_insert (pairs : List (κ × α)) {entries : Entries κ α}
    (distinct : (keys entries).Nodup) :
    (keys (pairs.foldl (fun entries pair => insert pair.1 pair.2 entries) entries)).Nodup := by
  induction pairs generalizing entries with
  | nil => exact distinct
  | cons pair rest ih => exact ih (nodup_keys_insert distinct pair.1 pair.2)

theorem nodup_keys_ofList (pairs : List (κ × α)) : (keys (ofList pairs)).Nodup :=
  nodup_keys_foldl_insert pairs List.nodup_nil

end Entries

structure Table (κ α : Type) where
  entries : Entries κ α
  distinct : entries.keys.Nodup

namespace Table

variable {κ α β : Type}

def empty : Table κ α := ⟨[], List.nodup_nil⟩

instance : Inhabited (Table κ α) := ⟨empty⟩

def keys (table : Table κ α) : List κ := table.entries.keys

def values (table : Table κ α) : List α := table.entries.map Prod.snd

def size (table : Table κ α) : Nat := table.entries.length

def isEmpty (table : Table κ α) : Bool := table.entries.isEmpty

def mapValues (f : α → β) (table : Table κ α) : Table κ β :=
  ⟨table.entries.mapValues f, by rw [Entries.keys_mapValues]; exact table.distinct⟩

variable [DecidableEq κ]

def get? (table : Table κ α) (key : κ) : Option α := table.entries.lookup key

def contains (table : Table κ α) (key : κ) : Bool := table.entries.contains key

def insert (table : Table κ α) (key : κ) (value : α) : Table κ α :=
  ⟨table.entries.insert key value, Entries.nodup_keys_insert table.distinct key value⟩

def erase (table : Table κ α) (key : κ) : Table κ α :=
  ⟨table.entries.erase key, Entries.nodup_keys_erase table.distinct key⟩

def ofList (pairs : List (κ × α)) : Table κ α :=
  ⟨Entries.ofList pairs, Entries.nodup_keys_ofList pairs⟩

@[simp] theorem get?_empty (key : κ) : (empty : Table κ α).get? key = none := rfl

theorem get?_insert (table : Table κ α) (key other : κ) (value : α) :
    (table.insert key value).get? other = if key = other then some value else table.get? other :=
  Entries.lookup_insert key other value table.entries

theorem get?_erase (table : Table κ α) (key other : κ) :
    (table.erase key).get? other = if key = other then none else table.get? other :=
  Entries.lookup_erase key other table.entries

theorem keys_insert (table : Table κ α) (key : κ) (value : α) :
    (table.insert key value).keys =
      if key ∈ table.keys then table.keys else table.keys ++ [key] :=
  Entries.keys_insert key value table.entries

theorem mem_values_insert {table : Table κ α} {key : κ} {value other : α}
    (h : other ∈ (table.insert key value).values) : other = value ∨ other ∈ table.values := by
  obtain ⟨entry, member, rfl⟩ := List.mem_map.mp h
  exact (Entries.mem_insert member).imp_right fun old => List.mem_map_of_mem old

theorem mem_values_of_get? {table : Table κ α} {key : κ} {value : α}
    (h : table.get? key = some value) : value ∈ table.values :=
  List.mem_map_of_mem (Entries.mem_of_lookup h)

theorem contains_iff (table : Table κ α) (key : κ) : table.contains key = true ↔ key ∈ table.keys :=
  Entries.contains_iff key table.entries

theorem get?_isSome (table : Table κ α) (key : κ) : (table.get? key).isSome ↔ key ∈ table.keys :=
  Entries.lookup_isSome key table.entries

end Table

end ArgCheck
