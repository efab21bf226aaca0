import ArgCheck.Proofs.TypeTable.Builtins
import ArgCheck.Proofs.Validation.Congruence
import Mathlib.Data.Set.Card

set_option autoImplicit false

/-!
# What a table of types remembers

A log is a list of operations, oldest first. Of each kind of form and for each key, the table holds
the last one that the log registers after the last time it clears the key, and nothing else
(`performAll_logged`). Ids of one key share what is registered, whatever the ancestors of a class
are.
-/

namespace ArgCheck.TypeTable

variable {ε : Type}

inductive Action where
  | register (t : TypeId) (forms : TypeForms)
  | unregister (t : TypeId)
  | registerBuiltins

def perform (table : TypeTable) : Action → Traced ε TypeTable
  | .register t forms => table.register t forms
  | .unregister t => Prod.fst <$> table.unregister t
  | .registerBuiltins => table.registerBuiltins

def performAll (table : TypeTable) : List Action → Traced ε TypeTable
  | [] => pure table
  | action :: rest => do
    let table ← table.perform action
    table.performAll rest

namespace Action

def registrations : Action → List (TypeId × TypeForms)
  | .register t forms => [(t, forms)]
  | .unregister _ => []
  | .registerBuiltins =>
    TypeHandler.builtins.map fun pair => (.builtin pair.1, { handler := some pair.2 })

def clears (key : TypeKey) : Action → Bool
  | .unregister t => t.key = key
  | _ => false

def On (t : TypeId) (action : Action) : Prop :=
  action = .unregister t ∨ ∃ forms, action = .register t forms

end Action

def formsFor (key : TypeKey) (registrations : List (TypeId × TypeForms)) : List TypeForms :=
  registrations.filterMap fun entry => if entry.1.key = key then some entry.2 else none

/-- What is left of a log after the last operation that clears the key. -/
def sinceClear (key : TypeKey) (log : List Action) : List Action :=
  (log.reverse.takeWhile fun action => !action.clears key).reverse

section Forms

variable {α : Type} (kind : TypeForms → Option α) (key : TypeKey)

/-- The last form of a kind that was registered under the key since it was cleared. -/
def lastForm (log : List Action) : Option α :=
  ((formsFor key ((sinceClear key log).flatMap Action.registrations)).filterMap kind).getLast?

variable {kind key}

theorem formsFor_append (first second : List (TypeId × TypeForms)) :
    formsFor key (first ++ second) = formsFor key first ++ formsFor key second :=
  List.filterMap_append

theorem sinceClear_append_clears {action : Action} (h : action.clears key = true)
    (log : List Action) : sinceClear key (log ++ [action]) = [] := by
  simp [sinceClear, h]

theorem sinceClear_append_keeps {action : Action} (h : action.clears key = false)
    (log : List Action) : sinceClear key (log ++ [action]) = sinceClear key log ++ [action] := by
  simp [sinceClear, h]

theorem lastForm_append_clears {action : Action} (h : action.clears key = true)
    (log : List Action) : lastForm kind key (log ++ [action]) = none := by
  rw [lastForm, sinceClear_append_clears h]
  rfl

theorem lastForm_append_keeps {action : Action} (h : action.clears key = false)
    (log : List Action) : lastForm kind key (log ++ [action]) =
      (((formsFor key action.registrations).filterMap kind).getLast?).or
        (lastForm kind key log) := by
  rw [lastForm, sinceClear_append_keeps h, List.flatMap_append, formsFor_append,
    List.filterMap_append, List.getLast?_append]
  simp [lastForm]

/-- A form of its own: there is none at first, and a newer one takes the place of an older one. -/
structure Separate (kind : TypeForms → Option α) : Prop where
  absent : kind {} = none
  merge : ∀ older newer : TypeForms, kind (older.merge newer) = (kind newer).or (kind older)

end Forms

theorem separate_validator : Separate TypeForms.validator := ⟨rfl, fun _ _ => rfl⟩

theorem separate_coercer : Separate TypeForms.coercer := ⟨rfl, fun _ _ => rfl⟩

theorem separate_handler : Separate TypeForms.handler := ⟨rfl, fun _ _ => rfl⟩

def formsAt (table : TypeTable) (key : TypeKey) : TypeForms := (table.entries.get? key).getD {}

def next (table : TypeTable) : Action → TypeTable
  | .unregister t => if table.isRegistered t then table.remove t else table
  | action => action.registrations.foldl (fun table entry => table.add entry.1 entry.2) table

theorem perform_result (table : TypeTable) (action : Action) :
    (table.perform action : Traced ε TypeTable).result = .ok (table.next action) := by
  cases action with
  | register t forms => rfl
  | unregister t =>
    rw [perform, next, unregister, Traced.result_map]
    split <;> rfl
  | registerBuiltins => exact registerHandlers_result table TypeHandler.builtins

theorem performAll_result (table : TypeTable) (log : List Action) :
    (table.performAll log : Traced ε TypeTable).result = .ok (log.foldl next table) := by
  induction log generalizing table with
  | nil => rfl
  | cons action rest ih =>
    rw [performAll, Traced.result_bind, perform_result]
    exact ih (table.next action)

section Steps

variable {α : Type} {kind : TypeForms → Option α} {table : TypeTable} {key : TypeKey}

theorem formsAt_unregister (table : TypeTable) (t : TypeId) (key : TypeKey) :
    (table.next (.unregister t)).formsAt key =
      if t.key = key then {} else table.formsAt key := by
  rw [next]
  split
  · rw [formsAt, remove, Table.get?_erase]
    split <;> rfl
  · rename_i unknown
    by_cases same : t.key = key
    · have absent : key ∉ table.entries.keys := by
        rw [← same, ← Table.contains_iff]
        exact unknown
      have nothing : table.entries.get? key = none := (Entries.lookup_eq_none key _).mpr absent
      rw [if_pos same, formsAt, nothing, Option.getD_none]
    · rw [if_neg same]

theorem Separate.formsAt_add (separate : Separate kind) (table : TypeTable) (t : TypeId)
    (newer : TypeForms) (key : TypeKey) :
    kind ((table.add t newer).formsAt key) =
      if t.key = key then (kind newer).or (kind (table.formsAt key))
      else kind (table.formsAt key) := by
  unfold add
  by_cases empty : newer.isEmpty = true
  · have nothing : newer = {} := by
      obtain ⟨validator, coercer, handler⟩ := newer
      simpa [TypeForms.isEmpty, and_assoc] using empty
    rw [if_pos empty, nothing, separate.absent, Option.none_or, ite_self]
  · rw [if_neg empty]
    by_cases same : t.key = key
    · subst same
      have written : (TypeTable.mk (table.entries.insert t.key
          ((table.forms t).merge newer))).formsAt t.key = (table.forms t).merge newer := by
        rw [formsAt, Table.get?_insert, if_pos rfl, Option.getD_some]
      rw [written, separate.merge, if_pos rfl]
      rfl
    · rw [if_neg same, formsAt, Table.get?_insert, if_neg same]
      rfl

theorem Separate.formsAt_foldl_add (separate : Separate kind) (table : TypeTable)
    (registrations : List (TypeId × TypeForms)) (key : TypeKey) :
    kind ((registrations.foldl (fun table entry => table.add entry.1 entry.2) table).formsAt key) =
      (((formsFor key registrations).filterMap kind).getLast?).or (kind (table.formsAt key)) := by
  induction registrations generalizing table with
  | nil => rfl
  | cons entry rest ih =>
    have step := separate.formsAt_add table entry.1 entry.2 key
    rw [List.foldl_cons, ih, step]
    by_cases same : entry.1.key = key
    · have listed : formsFor key (entry :: rest) = entry.2 :: formsFor key rest := by
        simp [formsFor, same]
      rw [if_pos same, listed, List.filterMap_cons]
      cases kind entry.2 with
      | none => rfl
      | some form =>
        rw [Option.some_or, List.getLast?_cons]
        cases (List.filterMap kind (formsFor key rest)).getLast? <;> rfl
    · have skipped : formsFor key (entry :: rest) = formsFor key rest := by
        simp [formsFor, same]
      rw [if_neg same, skipped]

theorem Separate.formsAt_next (separate : Separate kind) (table : TypeTable) (action : Action)
    (key : TypeKey) : kind ((table.next action).formsAt key) =
      if action.clears key then none
      else (((formsFor key action.registrations).filterMap kind).getLast?).or
        (kind (table.formsAt key)) := by
  cases action with
  | register t forms => exact separate.formsAt_foldl_add table _ key
  | registerBuiltins => exact separate.formsAt_foldl_add table _ key
  | unregister t =>
    rw [formsAt_unregister]
    by_cases same : t.key = key
    · simp [Action.clears, same, separate.absent]
    · simp [Action.clears, same, Action.registrations, formsFor]

def Filled (table : TypeTable) : Prop := ∀ forms ∈ table.entries.values, forms.isEmpty = false

/-- The table holds what the log registers, and nothing else. -/
structure Remembers (table : TypeTable) (log : List Action) : Prop where
  forms : ∀ {α : Type} {kind : TypeForms → Option α}, Separate kind → ∀ key,
    kind (table.formsAt key) = lastForm kind key log
  filled : table.Filled

theorem remembers_empty : empty.Remembers [] := by
  constructor
  · intro α kind separate key
    exact separate.absent
  · intro forms member
    cases member

theorem Filled.add (filled : table.Filled) (t : TypeId) (newer : TypeForms) :
    (table.add t newer).Filled := by
  intro forms member
  unfold TypeTable.add at member
  split at member
  · exact filled forms member
  · rename_i given
    rcases Table.mem_values_insert member with rfl | old
    · obtain ⟨validator, coercer, handler⟩ := newer
      cases validator <;> cases coercer <;> cases handler <;>
        simp_all [TypeForms.isEmpty, TypeForms.merge]
    · exact filled forms old

theorem Filled.next (filled : table.Filled) (action : Action) : (table.next action).Filled := by
  cases action with
  | register t forms => exact filled.add t forms
  | registerBuiltins =>
    exact List.foldlRecOn (Action.registrations .registerBuiltins)
      (fun table entry => table.add entry.1 entry.2) filled
      fun _ kept entry _ => Filled.add kept entry.1 entry.2
  | unregister t =>
    intro forms member
    rw [TypeTable.next] at member
    split at member
    · exact filled forms ((List.filter_sublist.map Prod.snd).subset member)
    · exact filled forms member

theorem Remembers.next {log : List Action} (remembers : table.Remembers log) (action : Action) :
    (table.next action).Remembers (log ++ [action]) := by
  refine ⟨?_, remembers.filled.next action⟩
  intro α kind separate key
  rw [separate.formsAt_next, remembers.forms separate]
  cases clears : action.clears key with
  | true => rw [lastForm_append_clears clears, if_pos rfl]
  | false => rw [lastForm_append_keeps clears, if_neg Bool.false_ne_true]

theorem Remembers.foldl_next {before : List Action} (remembers : table.Remembers before)
    (log : List Action) : (log.foldl TypeTable.next table).Remembers (before ++ log) := by
  induction log generalizing table before with
  | nil => simpa using remembers
  | cons action rest ih =>
    have reached := ih (remembers.next action)
    rwa [List.append_assoc] at reached

end Steps

def HasForm (key : TypeKey) (log : List Action) : Prop :=
  (lastForm TypeForms.validator key log).isSome ∨ (lastForm TypeForms.coercer key log).isSome ∨
    (lastForm TypeForms.handler key log).isSome

/-- Two tables answer every question about the two ids alike. -/
structure SameAnswers (table : TypeTable) (t : TypeId) (other : TypeTable) (u : TypeId) : Prop where
  coerce : ∀ value, table.coerce t value = other.coerce u value
  valid : ∀ value, table.valid t value = other.valid u value
  hasCoercer : table.hasCoercer t = other.hasCoercer u
  isRegistered : table.isRegistered t = other.isRegistered u

section Answers

variable {table : TypeTable} {log : List Action} {t u : TypeId}

theorem coerce_eq (table : TypeTable) (t : TypeId) (value : Value) :
    table.coerce t value = ((table.formsAt t.key).coercer.map fun coerce => coerce value).getD
      (((table.formsAt t.key).handler.map fun handler => handler.coerce value).getD value) := by
  have forms : table.forms t = table.formsAt t.key := rfl
  simp only [coerce, forms]
  cases (table.formsAt t.key).coercer <;> cases (table.formsAt t.key).handler <;> rfl

theorem valid_eq (table : TypeTable) (t : TypeId) (value : Value) :
    table.valid t value = ((table.formsAt t.key).validator.map fun valid => valid value).getD
      (((table.formsAt t.key).handler.map fun handler => handler.valid value).getD
        (t.isInstance value)) := by
  have forms : table.forms t = table.formsAt t.key := rfl
  simp only [valid, forms]
  cases (table.formsAt t.key).validator <;> cases (table.formsAt t.key).handler <;> rfl

theorem Remembers.contains_iff (remembers : table.Remembers log) (key : TypeKey) :
    key ∈ table.entries.keys ↔ HasForm key log := by
  rw [HasForm, ← remembers.forms separate_validator, ← remembers.forms separate_coercer,
    ← remembers.forms separate_handler, ← Table.get?_isSome, formsAt]
  cases found : table.entries.get? key with
  | none => simp
  | some forms =>
    have filled := remembers.filled forms (Table.mem_values_of_get? found)
    obtain ⟨validator, coercer, handler⟩ := forms
    cases validator <;> cases coercer <;> cases handler <;> simp_all [TypeForms.isEmpty]

theorem Remembers.isRegistered_iff (remembers : table.Remembers log) (t : TypeId) :
    table.isRegistered t = true ↔ HasForm t.key log := by
  rw [isRegistered, Table.contains_iff, remembers.contains_iff]

theorem Remembers.size_eq (remembers : table.Remembers log) :
    {key | HasForm key log}.encard = table.size := by
  have listed : {key | HasForm key log} = (table.entries.keys.toFinset : Set TypeKey) := by
    ext key
    rw [Finset.mem_coe, List.mem_toFinset, remembers.contains_iff]
    rfl
  have card : table.entries.keys.toFinset.card = table.entries.keys.length :=
    List.toFinset_card_of_nodup table.entries.distinct
  have length : table.entries.keys.length = table.size := List.length_map _
  rw [listed, Set.encard_coe_eq_coe_finsetCard, card, length]

theorem sameAnswers_of_key (same : t.key = u.key) : table.SameAnswers t table u where
  coerce := coerce_congr same
  valid := valid_congr same
  hasCoercer := hasCoercer_congr same
  isRegistered := by rw [isRegistered, isRegistered, same]

theorem get?_next_of_ne {action : Action} (on : action.On t) (other : u.key ≠ t.key) :
    (table.next action).entries.get? u.key = table.entries.get? u.key := by
  rcases on with rfl | ⟨forms, rfl⟩
  · rw [next]
    split
    · rw [remove, Table.get?_erase, if_neg other.symm]
    · rfl
  · change (table.add t forms).entries.get? u.key = _
    unfold add
    split
    · rfl
    · rw [Table.get?_insert, if_neg other.symm]

theorem sameAnswers_next {action : Action} (on : action.On t) (other : u.key ≠ t.key) :
    (table.next action).SameAnswers u table u := by
  have found : (table.next action).entries.get? u.key = table.entries.get? u.key :=
    get?_next_of_ne on other
  have forms : (table.next action).forms u = table.forms u := by
    rw [TypeTable.forms, TypeTable.forms, found]
  constructor
  · intro value
    rw [coerce, coerce, forms]
  · intro value
    rw [valid, valid, forms]
  · rw [hasCoercer, hasCoercer, forms]
  · rw [Bool.eq_iff_iff, isRegistered, isRegistered, Table.contains_iff, Table.contains_iff,
      ← Table.get?_isSome, ← Table.get?_isSome, found]

end Answers

/-- A table that was empty at first answers by its log, and an operation on one id leaves the answers
for the ids of other keys as they are. -/
theorem performAll_logged (log : List Action) :
    ∃ table, (empty.performAll log : Traced ε TypeTable).result = .ok table ∧
      (∀ t value,
        table.coerce t value =
            ((lastForm TypeForms.coercer t.key log).map fun coerce => coerce value).getD
              (((lastForm TypeForms.handler t.key log).map fun handler =>
                handler.coerce value).getD value) ∧
          table.valid t value =
            ((lastForm TypeForms.validator t.key log).map fun valid => valid value).getD
              (((lastForm TypeForms.handler t.key log).map fun handler =>
                handler.valid value).getD (t.isInstance value))) ∧
      (∀ t,
        (table.hasCoercer t = true ↔ (lastForm TypeForms.coercer t.key log).isSome ∨
          (lastForm TypeForms.handler t.key log).isSome) ∧
        (table.isRegistered t = true ↔ HasForm t.key log) ∧
        ∃ rest, (table.unregister t : Traced ε (TypeTable × Bool)).result =
          .ok (rest, table.isRegistered t)) ∧
      {key | HasForm key log}.encard = table.size ∧
      (∀ t u, t.key = u.key → table.SameAnswers t table u) ∧
      ∀ t action, action.On t → ∃ after,
        (table.perform action : Traced ε TypeTable).result = .ok after ∧
        ∀ u, u.key ≠ t.key → after.SameAnswers u table u := by
  have remembers : (log.foldl next empty).Remembers log := by
    simpa using remembers_empty.foldl_next log
  refine ⟨log.foldl next empty, performAll_result empty log, ?_, ?_, remembers.size_eq,
    fun t u => sameAnswers_of_key, ?_⟩
  · intro t value
    rw [coerce_eq, valid_eq, remembers.forms separate_coercer, remembers.forms separate_handler,
      remembers.forms separate_validator]
    exact ⟨rfl, rfl⟩
  · intro t
    refine ⟨?_, remembers.isRegistered_iff t, ?_⟩
    · rw [← remembers.forms separate_coercer, ← remembers.forms separate_handler, ← Bool.or_eq_true]
      rfl
    · rw [unregister]
      cases known : (log.foldl next empty).isRegistered t with
      | true => exact ⟨_, rfl⟩
      | false => exact ⟨_, rfl⟩
  · intro t action on
    exact ⟨_, perform_result _ action, fun u other => sameAnswers_next on other⟩

/-- Admins are valid for no value, registering nothing for users has no effect, and floats lose their
handler again. -/
def promotions : List Action :=
  [.register (.entity ⟨"Admin", ["User"]⟩) { validator := some fun _ => false },
    .register (.entity (.root "User")) {},
    .registerBuiltins,
    .unregister (.builtin .float)]

theorem performAll_logged_promotions :
    ∃ table, (empty.performAll promotions : Traced ArgumentError TypeTable).result = .ok table ∧
      table.valid (.entity (.root "Admin")) .null = false ∧
      table.isRegistered (.entity (.root "User")) = false ∧
      table.hasCoercer (.builtin .integer) = true ∧
      table.isRegistered (.builtin .float) = false ∧
      ∃ after, (table.perform (.unregister (.builtin .integer)) :
          Traced ArgumentError TypeTable).result = .ok after ∧
        after.SameAnswers (.entity (.root "Admin")) table (.entity ⟨"Admin", ["User"]⟩) := by
  obtain ⟨table, reached, answers, known, -, shared, apart⟩ :=
    performAll_logged (ε := ArgumentError) promotions
  refine ⟨table, reached, (answers _ _).2, ?_, (known _).1.mpr (.inr rfl), ?_, ?_⟩
  · rw [Bool.eq_false_iff, ne_eq, (known (.entity (.root "User"))).2.1]
    rintro (form | form | form) <;> cases form
  · rw [Bool.eq_false_iff, ne_eq, (known (.builtin .float)).2.1]
    rintro (form | form | form) <;> cases form
  · obtain ⟨after, performed, same⟩ := apart (.builtin .integer) (.unregister (.builtin .integer))
      (.inl rfl)
    have kept := same (.entity (.root "Admin")) (by simp [TypeId.key])
    have alike := shared (.entity (.root "Admin")) (.entity ⟨"Admin", ["User"]⟩) rfl
    exact ⟨after, performed, fun value => (kept.coerce value).trans (alike.coerce value),
      fun value => (kept.valid value).trans (alike.valid value),
      kept.hasCoercer.trans alike.hasCoercer, kept.isRegistered.trans alike.isRegistered⟩

end ArgCheck.TypeTable
