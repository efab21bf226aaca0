import ArgCheck.Proofs.Definition.Filters

set_option autoImplicit false

/-!
# What record filters make of a value

A record filter resolves its class once and then decides. What it decides is no more than `accepts` and
`cast` say of the value, which resolve the class on their own, and of a class that is declared with a
store only the name matters (`process_contract`).
-/

namespace ArgCheck

/-- The class comes by name or as a handle, in the option or else as the declared type. The names above
a handle may be any. -/
inductive Options.NamesClass (options : Options) (name : String) : Prop
  | name (cls : options.cls = some (.name name))
  | handle {c : EntityClass} (cls : options.cls = some (.handle c)) (named : c.name = name)
  | declared {c : EntityClass} (cls : options.cls = none) (declared : options.declared = .id (.entity c))
      (named : c.name = name)

namespace RecordFilter

variable {filter other : RecordFilter} {store : EntityStore} {name : String} {c : EntityClass}
  {value : Value} {memory : MemoryStore}

theorem className?_of_namesClass (h : filter.base.options.NamesClass name) :
    filter.className? = some name := by
  unfold className? classRef?
  cases h with
  | name cls =>
    rw [cls]
    rfl
  | handle cls named =>
    rw [cls, ← named]
    rfl
  | declared cls declared named =>
    rw [cls, declared, ← named]
    rfl

theorem recordClass_of_namesClass (h : filter.base.options.NamesClass name)
    (stored : filter.store = some store) : filter.recordClass =
      match store.resolveClass name with
      | some c => .ok c
      | none => .error (.unresolvableClass filter.base.name name) := by
  have resolved := recordClass_stored stored
  rw [className?_of_namesClass h] at resolved
  exact resolved

theorem recordClass_ok_iff (h : filter.base.options.NamesClass name)
    (stored : filter.store = some store) (c : EntityClass) :
    filter.recordClass = .ok c ↔ store.resolveClass name = some c := by
  rw [recordClass_of_namesClass h stored]
  cases store.resolveClass name <;> simp

theorem find_result (attached : filter.store = some memory.toStore) (c : EntityClass)
    (id : EntityId) : (filter.find c id).result =
      match memory.find? c id with
      | some e => .ok (.entity e)
      | none => .error (.entityNotFound filter.base.name c.name id.render) := by
  have looked : memory.toStore.findById c id = .ok (memory.find? c id) := rfl
  simp only [find, answer, attached, looked]
  cases memory.find? c id <;> rfl

theorem process_identifier {id : EntityId} (resolved : filter.recordClass = .ok c)
    (identified : value.entityId? = some id) :
    (filter.process value).result = (filter.find c id).result := by
  have given : value ≠ .null := by
    rintro rfl
    cases identified
  have unaccepted : filter.accepts value = false := by
    cases value with
    | entity e => cases identified
    | _ => rfl
  rw [process_result given, resolved]
  simp only [Except.bind, unaccepted, Bool.false_eq_true, if_false, castIn, identified]

theorem accepts_of_error {error : ArgumentError} (failed : filter.recordClass = .error error)
    (value : Value) : filter.accepts value = false := by
  unfold accepts
  rw [failed]
  cases value <;> rfl

/-- The class is resolved once here, and by `accepts` and `cast` each on its own. -/
theorem process_eq (filter : RecordFilter) (value : Value) : filter.process value =
    if value.isNull || filter.accepts value then pure value else filter.cast value := by
  by_cases null : value = .null
  · subst null
    rfl
  · have given : value.isNull = false := by
      rwa [← Bool.not_eq_true, Value.isNull_iff]
    unfold process cast
    rw [given, Bool.false_or, if_neg Bool.false_ne_true]
    cases resolved : filter.recordClass with
    | error error =>
      rw [accepts_of_error resolved, if_neg Bool.false_ne_true]
      rfl
    | ok c =>
      have once : ∀ next : EntityClass → Traced ArgumentError Value,
          Traced.ofExcept (.ok c) >>= next = next c := Traced.pure_bind c
      rw [once, once]
      cases value with
      | entity e =>
        have accepted : filter.accepts (.entity e) = e.isA c := by
          unfold accepts
          rw [resolved]
        rw [accepted]
      | _ => rfl

theorem process_of_isA {e : Entity} (resolved : filter.recordClass = .ok c)
    (below : e.isA c = true) : (filter.process (.entity e)).result = .ok (.entity e) := by
  have accepted : filter.accepts (.entity e) = true := (accepts_iff resolved _).mpr ⟨e, rfl, below⟩
  rw [process_eq, accepted, Bool.or_true, if_pos rfl]
  rfl

/-- What is taken is an entity of the class, or an identifier under which there is one. -/
theorem process_ok_cases (attached : filter.store = some memory.toStore) (given : value ≠ .null)
    {found : Value} (taken : (filter.process value).result = .ok found) :
    ∃ c, filter.recordClass = .ok c ∧
      ((∃ e, value = .entity e ∧ e.isA c = true) ∨
        ∃ id e, value.entityId? = some id ∧ memory.find? c id = some e) := by
  rw [process_result given, Sequence.bind_ok_iff] at taken
  obtain ⟨c, resolved, taken⟩ := taken
  refine ⟨c, resolved, ?_⟩
  split at taken
  · rename_i accepted
    exact .inl ((accepts_iff resolved value).mp accepted)
  · obtain ⟨store, id, e, stored, identified, looked, -⟩ := castIn_ok taken
    obtain rfl : store = memory.toStore := Option.some.inj (stored.symm.trans attached)
    exact .inr ⟨id, e, identified, Except.ok.inj looked⟩

/-- The two cannot be told apart by what they make of values. -/
structure Alike (filter other : RecordFilter) : Prop where
  process : ∀ value, filter.process value = other.process value
  accepts : ∀ value, filter.accepts value = other.accepts value
  cast : ∀ value, filter.cast value = other.cast value

theorem alike_of_recordClass (resolved : filter.recordClass = other.recordClass)
    (name : filter.base.name = other.base.name) (stored : filter.store = other.store) :
    filter.Alike other := by
  refine ⟨process_congr resolved name stored, ?_, ?_⟩
  · intro value
    simp only [accepts, resolved]
  · intro value
    simp only [cast, castIn, find, lookupEvent, answer, name, stored, resolved]

/-- Whatever its class and its store, a record filter keeps to the contract that filters have in common.
With a store, all declarations of one class name make the same filter. -/
theorem process_contract :
    (∀ (filter : RecordFilter) (value : Value), filter.process value =
      if value.isNull || filter.accepts value then pure value else filter.cast value) ∧
    ∀ (argument : String) (store : EntityStore) (name : String) (options others : Options),
      options.NamesClass name → others.NamesClass name →
        Alike ⟨⟨argument, options⟩, some store⟩ ⟨⟨argument, others⟩, some store⟩ := by
  refine ⟨process_eq, ?_⟩
  intro argument store name options others first second
  refine alike_of_recordClass ?_ rfl rfl
  rw [recordClass_of_namesClass first rfl, recordClass_of_namesClass second rfl]

/-- Admins declared by a handle that has them below robots, for a store that has them below users and in
which every look-up fails. -/
def admins : RecordFilter :=
  ⟨⟨"boss", { declared := .tag "record", cls := some (.handle ⟨"Admin", ["Robot"]⟩) }⟩,
    some (MemoryStore.sample.toFailingStore "offline")⟩

theorem process_contract_admins :
    let declared : RecordFilter :=
      ⟨⟨"boss", .ofType (.id (.entity (.root "Admin")))⟩, admins.store⟩
    Alike admins declared ∧
      (admins.process (.string "7")).result = .error (.storeFailure "boss" "offline") ∧
      admins.process (.entity ⟨⟨"Robot", ["Admin"]⟩, .int 1, []⟩) =
        pure (.entity ⟨⟨"Robot", ["Admin"]⟩, .int 1, []⟩) := by
  intro declared
  obtain ⟨contract, named⟩ := process_contract
  refine ⟨named "boss" _ "Admin" _ _ (.handle rfl rfl) (.declared rfl rfl rfl), ?_, ?_⟩
  · rw [contract]
    rfl
  · rw [contract]
    rfl

end RecordFilter

end ArgCheck
