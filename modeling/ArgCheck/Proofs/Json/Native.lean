import ArgCheck.Json.Members
import ArgCheck.Proofs.Binary64.Finite
import ArgCheck.Proofs.Numeral.Digits
import ArgCheck.Proofs.Sequence
import ArgCheck.Proofs.Value.Induction
import ArgCheck.Value.Json
import Mathlib.Data.List.Induction

set_option autoImplicit false

/-!
# Values of JSON

The JSON that a program holds, as opposed to a text, has whole numbers of 64 bits, finite doubles
and no repeated keys (`Json.WellFormed`). The values it stands for are `Value.Native`: they come
back when they are written and read again (`ofJson_toJson`), and all that is read is among them
(`native_ofJson`).
-/

namespace ArgCheck

inductive Json.WellFormed : Json → Prop
  | null : WellFormed .null
  | bool (b : Bool) : WellFormed (.bool b)
  | int {n : Int} (low : -0x8000000000000000 ≤ n) (high : n < 0x10000000000000000) :
      WellFormed (.int n)
  | float {x : Float} (finite : x.isFinite = true) : WellFormed (.float x)
  | string (s : String) : WellFormed (.string s)
  | array {items : List Json} (each : ∀ item ∈ items, item.WellFormed) : WellFormed (.array items)
  | object {members : List (String × Json)} (distinct : (Entries.keys members).Nodup)
      (each : ∀ member ∈ members, member.2.WellFormed) : WellFormed (.object members)

inductive Value.Native : Value → Prop
  | null : Native .null
  | bool (b : Bool) : Native (.bool b)
  | int (n : Int64) : Native (.int n)
  | float {x : Float} (finite : x.isFinite = true) : Native (.float x)
  | string (s : String) : Native (.string s)
  | array {items : List Value} (each : ∀ item ∈ items, item.Native) : Native (.array items)
  | map {entries : List (String × Value)} (distinct : (Entries.keys entries).Nodup)
      (each : ∀ entry ∈ entries, entry.2.Native) : Native (.map entries)

namespace Entries

variable {κ α : Type}

theorem mapValues_cons {β : Type} (f : α → β) (entry : κ × α) (rest : Entries κ α) :
    mapValues f (entry :: rest) = (entry.1, f entry.2) :: mapValues f rest := rfl

theorem mapValues_mapValues {β γ : Type} (f : α → β) (g : β → γ) (entries : Entries κ α) :
    mapValues g (mapValues f entries) = mapValues (g ∘ f) entries := by
  simp [mapValues, Function.comp_def]

theorem forall_mem_mapValues {β : Type} (f : α → β) (p : β → Prop) (entries : Entries κ α) :
    (∀ entry ∈ mapValues f entries, p entry.2) ↔ ∀ entry ∈ entries, p (f entry.2) := by
  rw [mapValues, List.forall_mem_map]

theorem mapValues_self {f : α → α} {entries : Entries κ α}
    (h : ∀ entry ∈ entries, f entry.2 = entry.2) : mapValues f entries = entries := by
  refine (List.map_congr_left ?_).trans (List.map_id entries)
  intro entry member
  rw [h entry member]
  rfl

variable [DecidableEq κ]

theorem ofList_self {entries : Entries κ α} (distinct : (keys entries).Nodup) :
    ofList entries = entries := by
  induction entries using List.reverseRecOn with
  | nil => rfl
  | append_singleton before entry ih =>
    rw [keys_append, List.nodup_append] at distinct
    obtain ⟨earlier, -, apart⟩ := distinct
    have fresh : entry.1 ∉ keys before := fun member => apart entry.1 member entry.1 (by simp) rfl
    rw [ofList, List.foldl_append, ← ofList, ih earlier]
    exact insert_of_notMem entry.2 fresh

end Entries

namespace Json

theorem mergedItems_eq (items : List Json) : mergedItems items = items.map merged :=
  Sequence.eq_map_of_cons rfl (fun _ _ => rfl) items

theorem mergedMembers_eq (members : List (String × Json)) :
    mergedMembers members = Entries.mapValues merged members :=
  Sequence.eq_map_of_cons rfl (fun _ _ => rfl) members

theorem finiteItems_eq (items : List Json) : finiteItems items = items.map finite :=
  Sequence.eq_map_of_cons rfl (fun _ _ => rfl) items

theorem finiteMembers_eq (members : List (String × Json)) :
    finiteMembers members = Entries.mapValues finite members :=
  Sequence.eq_map_of_cons rfl (fun _ _ => rfl) members

variable {json : Json}

theorem WellFormed.merged_self (h : json.WellFormed) : json.merged = json := by
  induction h with
  | array _ ih => rw [merged, mergedItems_eq, List.map_congr_left ih, List.map_id']
  | object distinct _ ih =>
    rw [merged, mergedMembers_eq, Entries.mapValues_self ih, Entries.ofList_self distinct]
  | _ => rfl

theorem WellFormed.finite_self (h : json.WellFormed) : json.finite = json := by
  induction h with
  | float isFinite => simp [finite, isFinite]
  | array _ ih => rw [finite, finiteItems_eq, List.map_congr_left ih, List.map_id']
  | object distinct _ ih => rw [finite, finiteMembers_eq, Entries.mapValues_self ih]
  | _ => rfl

theorem WellFormed.canonical_self (h : json.WellFormed) : json.canonical = json := by
  rw [canonical, h.merged_self, h.finite_self]

end Json

namespace Value

theorem toJsonItems_eq (items : List Value) : toJsonItems items = items.map toJson :=
  Sequence.eq_map_of_cons rfl (fun _ _ => rfl) items

theorem toJsonEntries_eq (entries : List (String × Value)) :
    toJsonEntries entries = Entries.mapValues toJson entries :=
  Sequence.eq_map_of_cons rfl (fun _ _ => rfl) entries

theorem ofJsonItems_eq (items : List Json) : ofJsonItems items = items.map ofJson :=
  Sequence.eq_map_of_cons rfl (fun _ _ => rfl) items

theorem ofJsonMembers_eq (members : List (String × Json)) :
    ofJsonMembers members = Entries.mapValues ofJson members :=
  Sequence.eq_map_of_cons rfl (fun _ _ => rfl) members

theorem ofWhole_toInt (n : Int64) : ofWhole n.toInt = .int n := by
  rw [ofWhole, Numeral.toInt64?_toInt]

theorem native_ofWhole {n : Int} (low : -0x8000000000000000 ≤ n) (high : n < 0x10000000000000000) :
    (ofWhole n).Native := by
  unfold ofWhole Numeral.toInt64?
  by_cases fits : Numeral.inInt64 n = true
  · simpa [fits] using Native.int (Int64.ofInt n)
  · simp only [fits, Bool.false_eq_true, if_false]
    refine .float (Binary64.isFinite_ofInt_wide ?_ high)
    simp only [Numeral.inInt64, Bool.and_eq_true, decide_eq_true_eq] at fits
    omega

theorem Native.ofJson_toJson {value : Value} (h : value.Native) : ofJson value.toJson = value := by
  induction h with
  | int n => exact ofWhole_toInt n
  | float finite => simp [toJson, floatJson, finite, ofJson]
  | array _ ih =>
    have each : ∀ item ∈ _, (ofJson ∘ toJson) item = item := ih
    rw [toJson, ofJson, toJsonItems_eq, ofJsonItems_eq, List.map_map, List.map_congr_left each,
      List.map_id']
  | map _ _ ih =>
    rw [toJson, ofJson, toJsonEntries_eq, ofJsonMembers_eq, Entries.mapValues_mapValues,
      Entries.mapValues_self ih]
  | _ => rfl

theorem wellFormed_toJsonEntries {entries : List (String × Value)}
    (distinct : (Entries.keys entries).Nodup)
    (each : ∀ entry ∈ entries, entry.2.toJson.WellFormed) :
    (Json.object (toJsonEntries entries)).WellFormed := by
  rw [toJsonEntries_eq]
  refine .object (by rwa [Entries.keys_mapValues]) ?_
  exact (Entries.forall_mem_mapValues toJson _ _).mpr each

theorem wellFormed_toJson {value : Value} (h : value.WellFormed) : value.toJson.WellFormed := by
  induction value using Value.induction with
  | step value ih =>
    -- what stands under the keys of an entry list is among the parts
    have under : ∀ entries : List (String × Value), entries.map Prod.snd = value.parts →
        WellFormedEntries entries → ∀ entry ∈ entries, entry.2.toJson.WellFormed := by
      intro entries parts each entry member
      rw [wellFormedEntries_iff] at each
      exact ih entry.2 (parts ▸ List.mem_map_of_mem member) (each entry member)
    cases value with
    | null => exact .null
    | bool b => exact .bool b
    | int n =>
      have low := n.le_toInt
      have high := n.toInt_lt
      exact .int (by omega) (by omega)
    | float x =>
      rw [toJson, floatJson]
      split
      · exact .float (by assumption)
      · exact .null
    | decimal | string | symbol | date | dateTime | timestamp => exact .string _
    | array items =>
      rw [WellFormed, wellFormedItems_iff] at h
      rw [toJson, toJsonItems_eq]
      refine .array (List.forall_mem_map.mpr ?_)
      intro item member
      exact ih item member (h item member)
    | map entries => exact wellFormed_toJsonEntries h.1 (under entries rfl h.2)
    | entity e =>
      obtain ⟨cls, id, attributes⟩ := e
      have inner := wellFormed_toJsonEntries h.1 (under attributes rfl h.2)
      refine .object (by simp) ?_
      simpa using ⟨.string cls.name, .string id.render, inner⟩

theorem Native.wellFormed {value : Value} (h : value.Native) : value.WellFormed := by
  induction h with
  | array _ ih =>
    rw [WellFormed, wellFormedItems_iff]
    exact ih
  | map distinct _ ih =>
    rw [WellFormed, wellFormedEntries_iff]
    exact ⟨distinct, ih⟩
  | _ => trivial

/-- A whole number beyond the signed ones becomes a double, and that is a number of JSON too. -/
theorem native_ofJson {json : Json} (h : json.WellFormed) : (ofJson json).Native := by
  induction h with
  | null => exact .null
  | bool b => exact .bool b
  | int low high => exact native_ofWhole low high
  | float finite => exact .float finite
  | string s => exact .string s
  | array _ ih =>
    rw [ofJson, ofJsonItems_eq]
    refine .array ?_
    simpa using ih
  | object distinct _ ih =>
    rw [ofJson, ofJsonMembers_eq]
    refine .map (by rwa [Entries.keys_mapValues]) ?_
    exact (Entries.forall_mem_mapValues ofJson _ _).mpr ih

theorem isNull_ofJson (json : Json) : (ofJson json).isNull = json.isNull := by
  cases json with
  | int n =>
    rw [ofJson, ofWhole]
    cases Numeral.toInt64? n <;> rfl
  | _ => rfl

end Value

end ArgCheck
