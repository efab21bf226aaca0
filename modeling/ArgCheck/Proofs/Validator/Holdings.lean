import ArgCheck.Proofs.TypeTable.History
import ArgCheck.Validator
import Mathlib.Logic.Function.Basic

set_option autoImplicit false

/-!
# What a validator holds

The tables of a validator have a slot for each form of a type, for the filter of an identifier or of a tag,
and for the schema of a name; a slot holds one registration at most. Over any changes, what a slot held at
first and all that is put into it leave it again in this order, except for what it holds at last
(`departures_conserve`).
-/

namespace ArgCheck

namespace TypeKey

def name : TypeKey → String
  | .builtin b => b.name
  | .entity name => name

theorem name_key (t : TypeId) : t.key.name = t.name := by
  cases t <;> rfl

end TypeKey

namespace Validator

inductive Slot where
  | validator (key : TypeKey)
  | coercer (key : TypeKey)
  | handler (key : TypeKey)
  | filterId (key : TypeKey)
  | filterTag (tag : String)
  | schema (name : String)
  deriving DecidableEq

/-- A registration, with what it stands under. -/
inductive Holding where
  | validator (key : TypeKey) (valid : Value → Bool)
  | coercer (key : TypeKey) (coerce : Value → Value)
  | handler (key : TypeKey) (handler : TypeHandler)
  | filterId (key : TypeKey) (kind : FilterKind)
  | filterTag (tag : String) (kind : FilterKind)
  | schema (name : String) (schema : Schema)

namespace Holding

def slot : Holding → Slot
  | validator key _ => .validator key
  | coercer key _ => .coercer key
  | handler key _ => .handler key
  | filterId key _ => .filterId key
  | filterTag tag _ => .filterTag tag
  | schema name _ => .schema name

def warning : Holding → Event
  | validator key _ => ⟨.warn, "replacing registered validator", [("type_id", key.name)]⟩
  | coercer key _ => ⟨.warn, "replacing registered coercer", [("type_id", key.name)]⟩
  | handler key _ => ⟨.warn, "replacing registered type handler", [("type_id", key.name)]⟩
  | filterId key kind =>
    ⟨.warn, "replacing filter for type identifier",
      [("type_id", key.name), ("kind", kind.label)]⟩
  | filterTag tag kind =>
    ⟨.warn, "replacing filter for tag", [("tag", tag), ("kind", kind.label)]⟩
  | schema name _ => ⟨.warn, "replacing registered argument schema", [("schema", name)]⟩

theorem level_warning (holding : Holding) : holding.warning.level = .warn := by
  cases holding <;> rfl

end Holding

abbrev Holdings := Slot → Option Holding

def holdings (validator : Validator) : Holdings
  | .validator key => (validator.types.formsAt key).validator.map (.validator key)
  | .coercer key => (validator.types.formsAt key).coercer.map (.coercer key)
  | .handler key => (validator.types.formsAt key).handler.map (.handler key)
  | .filterId key => (validator.filters.ids.get? key).map (.filterId key)
  | .filterTag tag => (validator.filters.tags.get? tag).map (.filterTag tag)
  | .schema name => (validator.schemas.get? name).map (.schema name)

inductive Change where
  | put (holding : Holding)
  | clear (slot : Slot)

def Change.into (slot : Slot) : Change → Option Holding
  | put holding => if holding.slot = slot then some holding else none
  | clear _ => none

/-- A registration that leaves its slot, and the one that takes its place, if it is not just removed. -/
structure Departure where
  holding : Holding
  successor : Option Holding

/-- Only what is replaced is warned of. -/
def Departure.warning? (departure : Departure) : Option Event :=
  departure.successor.map Holding.warning

namespace Holdings

def put (holdings : Holdings) (holding : Holding) : Holdings :=
  Function.update holdings holding.slot (some holding)

def clear (holdings : Holdings) (slot : Slot) : Holdings := Function.update holdings slot none

theorem put_apply (holdings : Holdings) (holding : Holding) (slot : Slot) :
    put holdings holding slot = if holding.slot = slot then some holding else holdings slot := by
  rw [put, Function.update_apply]
  exact if_congr eq_comm rfl rfl

theorem clear_apply (holdings : Holdings) (emptied slot : Slot) :
    clear holdings emptied slot = if emptied = slot then none else holdings slot := by
  rw [clear, Function.update_apply]
  exact if_congr eq_comm rfl rfl

def after (holdings : Holdings) : Change → Holdings
  | .put holding => put holdings holding
  | .clear slot => clear holdings slot

def departure? (holdings : Holdings) : Change → Option Departure
  | .put holding => (holdings holding.slot).map fun old => ⟨old, some holding⟩
  | .clear slot => (holdings slot).map fun old => ⟨old, none⟩

def departures (holdings : Holdings) : List Change → List Departure
  | [] => []
  | change :: rest => (departure? holdings change).toList ++ departures (after holdings change) rest

theorem departures_append (holdings : Holdings) (first second : List Change) :
    departures holdings (first ++ second) =
      departures holdings first ++ departures (first.foldl after holdings) second := by
  induction first generalizing holdings with
  | nil => rfl
  | cons change rest ih =>
    rw [List.cons_append, departures, departures, ih, List.foldl_cons, List.append_assoc]

/-- Each registration is in the slot that it belongs to. -/
def Placed (holdings : Holdings) : Prop :=
  ∀ slot holding, holdings slot = some holding → holding.slot = slot

variable {holdings : Holdings}

theorem Placed.after (placed : Placed holdings) (change : Change) :
    Placed (after holdings change) := by
  intro slot holding found
  cases change with
  | put new =>
    rw [Holdings.after, put_apply] at found
    split at found
    · cases found
      assumption
    · exact placed slot holding found
  | clear emptied =>
    rw [Holdings.after, clear_apply] at found
    split at found
    · cases found
    · exact placed slot holding found

/-- What leaves a slot at a change is what the slot held. -/
theorem departure?_conserves (placed : Placed holdings) (change : Change) (slot : Slot) :
    (holdings slot).toList ++ (change.into slot).toList =
      ((departure? holdings change).toList.map Departure.holding).filter (fun old => old.slot = slot) ++
        (after holdings change slot).toList := by
  cases change with
  | put new =>
    rw [Change.into, departure?, after, put_apply]
    by_cases here : new.slot = slot
    · subst here
      cases found : holdings new.slot with
      | none => simp
      | some old => simp [placed _ _ found]
    · cases found : holdings new.slot with
      | none => simp [here]
      | some old => simp [here, placed _ _ found]
  | clear emptied =>
    rw [Change.into, departure?, after, clear_apply]
    by_cases here : emptied = slot
    · subst here
      cases found : holdings emptied with
      | none => simp
      | some old => simp [placed _ _ found]
    · cases found : holdings emptied with
      | none => simp [here]
      | some old => simp [here, placed _ _ found]

/-- The registrations of a slot come and go in the same order. -/
theorem departures_conserve (placed : Placed holdings) (changes : List Change) (slot : Slot) :
    (holdings slot).toList ++ changes.filterMap (Change.into slot) =
      ((departures holdings changes).map Departure.holding).filter (fun old => old.slot = slot) ++
        (changes.foldl after holdings slot).toList := by
  induction changes generalizing holdings with
  | nil => simp [departures]
  | cons change rest ih =>
    have into : (change :: rest).filterMap (Change.into slot) =
        (change.into slot).toList ++ rest.filterMap (Change.into slot) := by
      cases found : change.into slot <;> simp [found]
    rw [into, ← List.append_assoc, departure?_conserves placed, List.append_assoc,
      ih (placed.after change), departures, List.map_append, List.filter_append, List.append_assoc,
      List.foldl_cons]

/-- Registrations that come into vacant slots, one into each, replace nothing. -/
theorem departures_vacant {changes : List Change} {fresh : List Holding}
    (puts : changes = fresh.map .put) (distinct : (fresh.map Holding.slot).Nodup)
    (vacant : ∀ holding ∈ fresh, holdings holding.slot = none) :
    departures holdings changes = [] := by
  subst puts
  induction fresh generalizing holdings with
  | nil => rfl
  | cons holding rest ih =>
    obtain ⟨apart, distinct⟩ := List.nodup_cons.mp distinct
    obtain ⟨here, later⟩ := List.forall_mem_cons.mp vacant
    have others : ∀ other ∈ rest, put holdings holding other.slot = none := by
      intro other member
      have different : other.slot ≠ holding.slot := by
        intro same
        exact apart (same ▸ List.mem_map_of_mem member)
      rw [put_apply, if_neg (Ne.symm different)]
      exact later other member
    rw [List.map_cons, departures, departure?, here]
    exact ih distinct others

end Holdings

theorem placed_holdings (validator : Validator) : Holdings.Placed validator.holdings := by
  intro slot holding found
  cases slot <;> simp only [holdings, Option.map_eq_some_iff] at found <;>
    obtain ⟨content, -, rfl⟩ := found <;> rfl

end Validator

end ArgCheck
