import ArgCheck.Value.Basic

set_option autoImplicit false

/-!
# Induction along values

Arrays, maps and entities hold values, and every value is reached from those without any by putting them
together (`Value.induction`). What a well-formed value holds is well-formed.
-/

namespace ArgCheck

namespace Value

def parts : Value → List Value
  | .array items => items
  | .map entries => entries.map Prod.snd
  | .entity e => e.attributes.map Prod.snd
  | _ => []

theorem sizeOf_entry {entries : List (String × Value)} {part : Value}
    (member : part ∈ entries.map Prod.snd) : sizeOf part < sizeOf entries := by
  obtain ⟨⟨key, value⟩, inside, rfl⟩ := List.mem_map.mp member
  have smaller := List.sizeOf_lt_of_mem inside
  simp only [Prod.mk.sizeOf_spec] at smaller
  change sizeOf value < _
  omega

theorem sizeOf_part {value part : Value} (member : part ∈ value.parts) :
    sizeOf part < sizeOf value := by
  cases value with
  | array items =>
    have smaller : sizeOf part < sizeOf items := List.sizeOf_lt_of_mem member
    simp only [array.sizeOf_spec]
    omega
  | map entries =>
    have smaller : sizeOf part < sizeOf entries := sizeOf_entry member
    simp only [map.sizeOf_spec]
    omega
  | entity e =>
    obtain ⟨cls, id, attributes⟩ := e
    have smaller : sizeOf part < sizeOf attributes := sizeOf_entry member
    simp only [entity.sizeOf_spec, EntityOf.mk.sizeOf_spec]
    omega
  | _ => cases member

theorem induction {motive : Value → Prop}
    (step : ∀ value, (∀ part ∈ value.parts, motive part) → motive value) (value : Value) :
    motive value :=
  step value fun part _ => induction step part
termination_by sizeOf value
decreasing_by exact sizeOf_part (by assumption)

theorem wellFormedItems_iff (items : List Value) :
    WellFormedItems items ↔ ∀ item ∈ items, item.WellFormed := by
  induction items with
  | nil => simp [WellFormedItems]
  | cons item rest ih => rw [WellFormedItems, ih, List.forall_mem_cons]

theorem wellFormedEntries_iff (entries : List (String × Value)) :
    WellFormedEntries entries ↔ ∀ entry ∈ entries, entry.2.WellFormed := by
  induction entries with
  | nil => simp [WellFormedEntries]
  | cons entry rest ih => rw [WellFormedEntries, ih, List.forall_mem_cons]

theorem WellFormed.part {value part : Value} (h : value.WellFormed) (member : part ∈ value.parts) :
    part.WellFormed := by
  have under : ∀ {entries : List (String × Value)}, part ∈ entries.map Prod.snd →
      WellFormedEntries entries → part.WellFormed := by
    intro entries inside each
    obtain ⟨entry, found, rfl⟩ := List.mem_map.mp inside
    exact (wellFormedEntries_iff entries).mp each entry found
  cases value with
  | array items => exact (wellFormedItems_iff items).mp h part member
  | map entries => exact under member h.2
  | entity e => exact under member h.2
  | _ => cases member

end Value

end ArgCheck
