import ArgCheck.Proofs.FilterTable.Quiet
import ArgCheck.Proofs.Validator.Holdings

set_option autoImplicit false

/-!
# Accounts of what is replaced

Writing into a table emits a warning for each registration that it replaces. `Accounts` relates what is
held before, the changes, the events and what is held afterwards; it can be joined end to end, so that it
holds of everything that is made of single changes.
-/

namespace ArgCheck.Validator

open Holdings

/-- The events tell of all that the changes replace. -/
structure Accounts (before : Holdings) (changes : List Change) (events : List Event)
    (later : Holdings) : Prop where
  holdings : later = changes.foldl after before
  warnings : Event.warnings events = (departures before changes).filterMap Departure.warning?

section Accounts

variable {first second third : Holdings} {changes others : List Change} {events told : List Event}

theorem accounts_silent (silent : Event.warnings events = []) : Accounts first [] events first :=
  ⟨rfl, silent⟩

theorem Accounts.append (before : Accounts first changes events second)
    (next : Accounts second others told third) :
    Accounts first (changes ++ others) (events ++ told) third := by
  constructor
  · rw [List.foldl_append, ← before.holdings]
    exact next.holdings
  · rw [Event.warnings_append, departures_append, List.filterMap_append, ← before.holdings,
      before.warnings, next.warnings]

theorem Accounts.append_silent (accounts : Accounts first changes events second)
    (silent : Event.warnings told = []) : Accounts first changes (events ++ told) second := by
  have both := accounts.append (accounts_silent silent)
  rwa [List.append_nil] at both

theorem accounts_put (first : Holdings) (holding : Holding) :
    Accounts first [.put holding] (if (first holding.slot).isSome then [holding.warning] else [])
      (put first holding) := by
  refine ⟨rfl, ?_⟩
  cases found : first holding.slot with
  | none => simp [departures, departure?, found, Event.warnings]
  | some old =>
    simp [departures, departure?, found, Event.warnings, Departure.warning?, holding.level_warning]

theorem accounts_clear (first : Holdings) (slot : Slot) :
    Accounts first [.clear slot] [] (clear first slot) := by
  refine ⟨rfl, ?_⟩
  cases found : first slot with
  | none => simp [departures, departure?, found, Event.warnings]
  | some old => simp [departures, departure?, found, Event.warnings, Departure.warning?]

end Accounts

def formChanges (key : TypeKey) (forms : TypeForms) : List Change :=
  (forms.validator.map fun form => .put (.validator key form)).toList ++
    (forms.coercer.map fun form => .put (.coercer key form)).toList ++
    (forms.handler.map fun form => .put (.handler key form)).toList

section Forms

variable {α : Type}

def offer (first : Holdings) (wrap : α → Holding) (form : Option α) : Holdings :=
  form.elim first fun form => put first (wrap form)

theorem offer_apply (wrap : α → Holding) (slot : Slot) (placed : ∀ form, (wrap form).slot = slot)
    (first : Holdings) (form : Option α) (other : Slot) :
    offer first wrap form other =
      if slot = other then (form.map wrap).or (first other) else first other := by
  cases form with
  | none => simp [offer]
  | some form =>
    rw [offer, Option.elim_some, put_apply, placed]
    rfl

theorem accounts_offer (first : Holdings) (wrap : α → Holding) (slot : Slot) (t : TypeId)
    (message : String) (form : Option α) (placed : ∀ form, (wrap form).slot = slot)
    (told : ∀ form, (wrap form).warning = ⟨.warn, message, [("type_id", t.key.name)]⟩) :
    Accounts first (form.map fun form => .put (wrap form)).toList
      (TypeTable.replaced (first slot).isSome form.isSome t message) (offer first wrap form) := by
  cases form with
  | none =>
    rw [Option.isSome_none, TypeTable.replaced, Bool.and_false]
    exact accounts_silent rfl
  | some form =>
    have accounts := accounts_put first (wrap form)
    rw [placed, told, TypeKey.name_key] at accounts
    rwa [Option.isSome_some, TypeTable.replaced, Bool.and_true]

theorem map_formsAt_add {kind : TypeForms → Option α} (separate : TypeTable.Separate kind)
    (wrap : TypeKey → α → Holding) (table : TypeTable) (t : TypeId) (forms : TypeForms)
    (key : TypeKey) :
    (kind ((table.add t forms).formsAt key)).map (wrap key) =
      if t.key = key then ((kind forms).map (wrap t.key)).or ((kind (table.formsAt key)).map (wrap key))
      else (kind (table.formsAt key)).map (wrap key) := by
  rw [separate.formsAt_add]
  by_cases same : t.key = key
  · subst same
    rw [if_pos rfl, if_pos rfl, Option.map_or]
  · rw [if_neg same, if_neg same]

end Forms

section Types

theorem holdings_add (validator : Validator) (t : TypeId) (forms : TypeForms) :
    { validator with types := validator.types.add t forms }.holdings =
      offer (offer (offer validator.holdings (.validator t.key) forms.validator)
        (.coercer t.key) forms.coercer) (.handler t.key) forms.handler := by
  funext slot
  rw [offer_apply (.handler t.key) (.handler t.key) fun _ => rfl,
    offer_apply (.coercer t.key) (.coercer t.key) fun _ => rfl,
    offer_apply (.validator t.key) (.validator t.key) fun _ => rfl]
  cases slot with
  | validator key =>
    simpa [holdings] using map_formsAt_add TypeTable.separate_validator .validator _ t forms key
  | coercer key =>
    simpa [holdings] using map_formsAt_add TypeTable.separate_coercer .coercer _ t forms key
  | handler key =>
    simpa [holdings] using map_formsAt_add TypeTable.separate_handler .handler _ t forms key
  | _ => rfl

theorem accounts_add (validator : Validator) (t : TypeId) (forms : TypeForms) :
    Accounts validator.holdings (formChanges t.key forms)
      (validator.types.registrationEvents t forms)
      { validator with types := validator.types.add t forms }.holdings := by
  rw [holdings_add, TypeTable.registrationEvents]
  by_cases empty : forms.isEmpty = true
  · obtain ⟨_ | _, _ | _, _ | _⟩ := forms <;> cases empty
    exact accounts_silent rfl
  · rw [if_neg empty]
    -- each form has a slot of its own, and finds it as it was before the others
    have validators := accounts_offer validator.holdings (.validator t.key) (.validator t.key) t
      "replacing registered validator" forms.validator (fun _ => rfl) (fun _ => rfl)
    have coercers := accounts_offer (offer validator.holdings (.validator t.key) forms.validator)
      (.coercer t.key) (.coercer t.key) t "replacing registered coercer" forms.coercer
      (fun _ => rfl) (fun _ => rfl)
    have handlers := accounts_offer (offer (offer validator.holdings (.validator t.key)
      forms.validator) (.coercer t.key) forms.coercer) (.handler t.key) (.handler t.key) t
      "replacing registered type handler" forms.handler (fun _ => rfl) (fun _ => rfl)
    rw [offer_apply (.validator t.key) (.validator t.key) fun _ => rfl, if_neg (by simp)] at coercers
    rw [offer_apply (.coercer t.key) (.coercer t.key) fun _ => rfl, if_neg (by simp),
      offer_apply (.validator t.key) (.validator t.key) fun _ => rfl, if_neg (by simp)] at handlers
    simp only [holdings, Option.isSome_map] at validators coercers handlers
    exact ((validators.append coercers).append handlers).append_silent rfl

def registrationChanges (registrations : List (TypeId × TypeForms)) : List Change :=
  registrations.flatMap fun entry => formChanges entry.1.key entry.2

theorem accounts_registerHandlers (validator : Validator) (handlers : List (Builtin × TypeHandler)) :
    Accounts validator.holdings
      (registrationChanges (handlers.map fun pair => (.builtin pair.1, { handler := some pair.2 })))
      (validator.types.registerHandlers handlers : Traced ArgumentError TypeTable).events
      { validator with types := handlers.foldl (fun table (pair : Builtin × TypeHandler) =>
          table.add (.builtin pair.1) { handler := some pair.2 }) validator.types }.holdings := by
  induction handlers generalizing validator with
  | nil => exact accounts_silent rfl
  | cons pair rest ih =>
    obtain ⟨b, handler⟩ := pair
    have here := validator.accounts_add (.builtin b) { handler := some handler }
    have later := ih { validator with
      types := validator.types.add (.builtin b) { handler := some handler } }
    exact here.append later

theorem holdings_unregister (validator : Validator) (t : TypeId) :
    { validator with types := validator.types.next (.unregister t) }.holdings =
      clear (clear (clear validator.holdings (.validator t.key)) (.coercer t.key))
        (.handler t.key) := by
  funext slot
  simp only [clear_apply]
  cases slot with
  | validator key | coercer key | handler key =>
    by_cases same : t.key = key <;> simp [holdings, TypeTable.formsAt_unregister, same]
  | _ => rfl

theorem warnings_unregister (table : TypeTable) (t : TypeId) :
    Event.warnings (table.unregister t : Traced ArgumentError (TypeTable × Bool)).events = [] := by
  unfold TypeTable.unregister
  split <;> rfl

theorem accounts_unregister (validator : Validator) (t : TypeId) :
    Accounts validator.holdings
      [.clear (.validator t.key), .clear (.coercer t.key), .clear (.handler t.key)]
      (validator.types.unregister t : Traced ArgumentError _).events
      { validator with types := validator.types.next (.unregister t) }.holdings := by
  rw [holdings_unregister]
  exact (((accounts_clear _ _).append (accounts_clear _ _)).append (accounts_clear _ _)).append_silent
    (warnings_unregister validator.types t)

end Types

section Tables

variable {κ α : Type} [DecidableEq κ]

theorem map_get?_insert (table : Table κ α) (key other : κ) (content : α) (wrap : κ → α → Holding) :
    ((table.insert key content).get? other).map (wrap other) =
      if key = other then some (wrap key content) else (table.get? other).map (wrap other) := by
  rw [Table.get?_insert]
  by_cases same : key = other
  · subst same
    rw [if_pos rfl, if_pos rfl, Option.map_some]
  · rw [if_neg same, if_neg same]

theorem holdings_addId (validator : Validator) (kind : FilterKind) (t : TypeId) :
    { validator with filters := { validator.filters with
        ids := FilterTable.addId kind validator.filters.ids t } }.holdings =
      put validator.holdings (.filterId t.key kind) := by
  funext slot
  rw [put_apply]
  cases slot with
  | filterId key =>
    simpa [holdings, Holding.slot, FilterTable.addId] using
      map_get?_insert _ t.key key kind .filterId
  | _ => rfl

theorem holdings_addTag (validator : Validator) (tag : String) (kind : FilterKind) :
    { validator with filters := { validator.filters with
        tags := validator.filters.tags.insert tag kind } }.holdings =
      put validator.holdings (.filterTag tag kind) := by
  funext slot
  rw [put_apply]
  cases slot with
  | filterTag other =>
    simpa [holdings, Holding.slot] using map_get?_insert _ tag other kind .filterTag
  | _ => rfl

theorem holdings_addSchema (validator : Validator) (name : String) (schema : Schema) :
    (validator.addSchema name schema).holdings = put validator.holdings (.schema name schema) := by
  funext slot
  rw [put_apply]
  cases slot with
  | schema other =>
    simpa [holdings, Holding.slot, addSchema] using map_get?_insert _ name other schema .schema
  | _ => rfl

theorem accounts_addIds (validator : Validator) (kind : FilterKind) (ids : List TypeId) :
    Accounts validator.holdings (ids.map fun t => .put (.filterId t.key kind))
      (FilterTable.replacedIds kind validator.filters.ids ids)
      { validator with filters := { validator.filters with
          ids := ids.foldl (FilterTable.addId kind) validator.filters.ids } }.holdings := by
  induction ids generalizing validator with
  | nil => exact accounts_silent rfl
  | cons t rest ih =>
    have here := accounts_put validator.holdings (.filterId t.key kind)
    simp only [Holding.slot, holdings, Option.isSome_map, Holding.warning, TypeKey.name_key] at here
    rw [← holdings_addId] at here
    exact here.append (ih { validator with filters := { validator.filters with
      ids := FilterTable.addId kind validator.filters.ids t } })

theorem accounts_enter (validator : Validator) (entry : FilterTable.Registration) :
    Accounts validator.holdings
      (entry.ids.map (fun t => .put (.filterId t.key entry.kind)) ++
        [.put (.filterTag entry.tag entry.kind)])
      (validator.filters.register entry.tag entry.kind entry.ids : Traced ArgumentError _).events
      { validator with filters := validator.filters.enter entry }.holdings := by
  have ids := validator.accounts_addIds entry.kind entry.ids
  have tag := accounts_put { validator with filters := { validator.filters with
    ids := entry.ids.foldl (FilterTable.addId entry.kind) validator.filters.ids } }.holdings
    (.filterTag entry.tag entry.kind)
  simp only [Holding.slot, holdings, Option.isSome_map, Holding.warning] at tag
  rw [← holdings_addTag] at tag
  exact ids.append tag

theorem accounts_addSchema (validator : Validator) (name : String) (schema : Schema) :
    Accounts validator.holdings [.put (.schema name schema)]
      (validator.registrationEvents name schema) (validator.addSchema name schema).holdings := by
  have here := accounts_put validator.holdings (.schema name schema)
  simp only [Holding.slot, holdings, Option.isSome_map, Holding.warning] at here
  rw [← holdings_addSchema] at here
  exact here.append_silent rfl

end Tables

end ArgCheck.Validator
