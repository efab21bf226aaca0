import ArgCheck.Proofs.TypeTable.History
import ArgCheck.Proofs.Validation.Run

set_option autoImplicit false

/-!
# What a validation asks the table of types

The table is asked for the declared types of the arguments that have no coercion of their own, and
about each only whether and how it coerces. So two tables that coerce these types alike cannot be told
apart by any validation (`validate_eq_of_coercesAlike`), and what is registered for the types of items,
or for a type that is not coerced, is never seen. A validator of a type that is coerced is seen.
-/

namespace ArgCheck

theorem Traced.bind_congr {ε α β : Type} {x : Traced ε α} {f g : α → Traced ε β}
    (h : ∀ a, x.result = .ok a → f a = g a) : x >>= f = x >>= g := by
  change Traced.bind x f = Traced.bind x g
  unfold Traced.bind
  cases outcome : x.result with
  | error error => rfl
  | ok a =>
    simp only
    rw [h a outcome]

namespace TypeTable

/-- Neither table coerces the type, or both do so in the same way and find the same valid. -/
inductive CoercesAlike (types other : TypeTable) (t : TypeId) : Prop
  | neither (here : types.hasCoercer t = false) (there : other.hasCoercer t = false)
  | both (here : types.hasCoercer t = true) (there : other.hasCoercer t = true)
      (coerce : ∀ value, types.coerce t value = other.coerce t value)
      (valid : ∀ value, types.valid t value = other.valid t value)

variable {types other : TypeTable} {t u : TypeId}

theorem CoercesAlike.hasCoercer (alike : types.CoercesAlike other t) :
    types.hasCoercer t = other.hasCoercer t := by
  cases alike with
  | neither here there => rw [here, there]
  | both here there _ _ => rw [here, there]

theorem SameAnswers.coercesAlike (same : types.SameAnswers t other t) :
    types.CoercesAlike other t := by
  cases here : types.hasCoercer t with
  | false => exact .neither here (same.hasCoercer ▸ here)
  | true => exact .both here (same.hasCoercer ▸ here) same.coerce same.valid

/-- A validator makes no type one that is coerced. -/
theorem hasCoercer_add_validator (types : TypeTable) (t : TypeId) (validator : Value → Bool)
    (u : TypeId) :
    (types.add t { validator := some validator }).hasCoercer u = types.hasCoercer u := by
  have coercer := separate_coercer.formsAt_add types t { validator := some validator } u.key
  have handler := separate_handler.formsAt_add types t { validator := some validator } u.key
  simp only [Option.none_or, ite_self] at coercer handler
  change (((types.add t { validator := some validator }).formsAt u.key).coercer.isSome ||
    ((types.add t { validator := some validator }).formsAt u.key).handler.isSome) =
      ((types.formsAt u.key).coercer.isSome || (types.formsAt u.key).handler.isSome)
  rw [coercer, handler]

theorem coercesAlike_add_validator (uncoerced : types.hasCoercer t = false)
    (validator : Value → Bool) (u : TypeId) :
    (types.next (.register t { validator := some validator })).CoercesAlike types u := by
  by_cases same : u.key = t.key
  · have here : types.hasCoercer u = false := (hasCoercer_congr same).trans uncoerced
    exact .neither ((hasCoercer_add_validator types t validator u).trans here) here
  · exact (sameAnswers_next (.inr ⟨_, rfl⟩) same).coercesAlike

end TypeTable

/-- The type is declared for an argument that has no coercion of its own. -/
def Schema.Consults (schema : Schema) (t : TypeId) : Prop :=
  ∃ entry ∈ schema.entries, entry.2.coercer = none ∧ entry.2.declared.typeId? = some t

namespace Validation

open TypeTable

variable {types other : TypeTable} {filters : FilterTable} {schema : Schema}

theorem coerceChecked_of_coercesAlike {t : TypeId} (alike : types.CoercesAlike other t)
    (coerced : types.hasCoercer t = true) (name : String) (value : Value) :
    coerceChecked types t name value = coerceChecked other t name value := by
  cases alike with
  | neither here _ =>
    rw [here] at coerced
    cases coerced
  | both _ _ coerce valid => simp only [coerceChecked, coerce, valid]

theorem coercedType?_of_coercesAlike {argument : Argument}
    (alike : ∀ t, argument.declared.typeId? = some t → types.CoercesAlike other t) :
    coercedType? types argument = coercedType? other argument := by
  unfold coercedType?
  cases declared : argument.declared.typeId? with
  | none => rfl
  | some t => rw [Option.filter_some, Option.filter_some, (alike t declared).hasCoercer]

theorem hasCoercer_of_coercedType? {argument : Argument} {t : TypeId}
    (coerced : coercedType? types argument = some t) :
    argument.declared.typeId? = some t ∧ types.hasCoercer t = true := by
  obtain ⟨declared, has⟩ := Option.filter_eq_some_iff.mp coerced
  exact ⟨declared, has⟩

/-- With a coercion of its own an argument never comes to the table of types. -/
theorem normalize_of_coercer {slot : Slot} (own : slot.argument.coercer.isSome = true)
    (types other : TypeTable) (value : Value) :
    normalize types slot value = normalize other slot value := by
  obtain ⟨coerce, declared⟩ := Option.isSome_iff_exists.mp own
  simp only [normalize, declared]

theorem normalize_of_coercesAlike {slot : Slot}
    (alike : slot.argument.coercer = none → ∀ t, slot.argument.declared.typeId? = some t →
      types.CoercesAlike other t) (value : Value) :
    normalize types slot value = normalize other slot value := by
  cases own : slot.argument.coercer with
  | some coerce => exact normalize_of_coercer (by rw [own]; rfl) types other value
  | none =>
    have same := coercedType?_of_coercesAlike (alike own)
    simp only [normalize, own, ← same]
    cases coerced : coercedType? types slot.argument with
    | none => rfl
    | some t =>
      obtain ⟨declared, has⟩ := hasCoercer_of_coercedType? coerced
      simp only [coerceChecked_of_coercesAlike (alike own t declared) has]

theorem normalizeSlots_of_normalize {slots : List Slot}
    (same : ∀ slot ∈ slots, ∀ value, normalize types slot value = normalize other slot value)
    (given : Arguments) : normalizeSlots types given slots = normalizeSlots other given slots := by
  induction slots generalizing given with
  | nil => rfl
  | cons slot rest ih =>
    rw [normalizeSlots, normalizeSlots, same slot List.mem_cons_self,
      ih fun later member => same later (List.mem_cons_of_mem slot member)]

theorem slot_of_buildSlots {slots : List Slot}
    (built : (buildSlots filters schema.entries).result = .ok slots) {slot : Slot}
    (member : slot ∈ slots) : (slot.name, slot.argument) ∈ schema.entries := by
  rw [buildSlots_result] at built
  obtain ⟨entry, declared, made⟩ := Sequence.exists_of_mapM_ok built member
  obtain ⟨name, argument, -⟩ := (slotOf_ok_iff entry slot).mp made
  rwa [name, argument]

/-- Events and all: tables that coerce the consulted types alike make no difference. -/
theorem validate_eq_of_coercesAlike (filters : FilterTable)
    (alike : ∀ t, schema.Consults t → types.CoercesAlike other t) (name : String)
    (given : Value) :
    validate types filters name schema given = validate other filters name schema given := by
  cases given with
  | map given =>
    change validateEntries types filters name schema given =
      validateEntries other filters name schema given
    refine Traced.bind_congr ?_
    intro slots built
    have same : ∀ slot ∈ slots, ∀ value,
        normalize types slot value = normalize other slot value := by
      intro slot member
      refine normalize_of_coercesAlike ?_
      intro uncoerced t declared
      exact alike t ⟨_, slot_of_buildSlots built member, uncoerced, declared⟩
    simp only [normalizeSlots_of_normalize same]
  | _ => rfl

/-- What a validation can see of the table of types. An operation on a type that is not consulted, be
it one of items or of arguments with coercions of their own, is not seen, nor is a validator for a
type that is not coerced. -/
theorem validate_independent (filters : FilterTable) (schema : Schema) :
    (∀ types other : TypeTable,
      (∀ entry ∈ schema.entries, entry.2.coercer = none →
        ∀ t, entry.2.declared.typeId? = some t → types.CoercesAlike other t) →
      ∀ name given,
        validate types filters name schema given = validate other filters name schema given) ∧
    (∀ slot : Slot, slot.argument.coercer.isSome = true → ∀ (types other : TypeTable) value,
      normalize types slot value = normalize other slot value) ∧
    (∀ (types : TypeTable) (t : TypeId) (action : Action), action.On t →
      (∀ u, schema.Consults u → u.key ≠ t.key) → ∀ name given,
        validate (types.next action) filters name schema given =
          validate types filters name schema given) ∧
    ∀ (types : TypeTable) (t : TypeId) (validator : Value → Bool), types.hasCoercer t = false →
      ∀ name given,
        validate (types.next (.register t { validator := some validator })) filters name schema
            given =
          validate types filters name schema given := by
  refine ⟨?alike, fun slot own => normalize_of_coercer own, ?unseen, ?validator⟩
  case alike =>
    intro types other alike name given
    refine validate_eq_of_coercesAlike filters ?_ name given
    rintro t ⟨entry, member, uncoerced, declared⟩
    exact alike entry member uncoerced t declared
  case unseen =>
    intro types t action on apart name given
    refine validate_eq_of_coercesAlike filters ?_ name given
    intro u consulted
    exact (sameAnswers_next on (apart u consulted)).coercesAlike
  case validator =>
    intro types t validator uncoerced name given
    refine validate_eq_of_coercesAlike filters ?_ name given
    exact fun u _ => coercesAlike_add_validator uncoerced validator u

def counted : Argument where
  options := .ofType (.tag "integer")
  coercer := some fun _ => .int 1

def batch : Schema where
  arguments := ⟨[("ids", { options :=
      { declared := .tag "array", element := some (.ofType (.tag "integer")) } }),
    ("count", counted)], by decide⟩

theorem consults_batch {t : TypeId} (consulted : batch.Consults t) : t = .builtin .array := by
  obtain ⟨entry, member, uncoerced, declared⟩ := consulted
  simp only [batch, Schema.entries, List.mem_cons, List.not_mem_nil, or_false] at member
  rcases member with rfl | rfl
  · exact (Option.some.inj declared).symm
  · cases uncoerced

theorem validate_batch :
    (validate empty .standard "batch" batch
        (.map [("ids", .array [.string "7"]), ("count", .int 2)])).result =
      .ok [("ids", .array [.int 7]), ("count", .int 1)] := by
  have item : FilterTable.Built .standard "ids[]" (.ofType (.tag "integer")) _ := .plain rfl rfl
  have ids : FilterTable.Built .standard "ids"
      { declared := .tag "array", element := some (.ofType (.tag "integer")) } _ :=
    .array rfl rfl item
  have count : FilterTable.Built .standard "count" counted.options _ := .plain rfl rfl
  rw [validate_map_result]
  simp only [batch, Schema.entries, Sequence.mapM_cons, slotOf, ids.build_result,
    count.build_result]
  rfl

theorem validate_independent_batch :
    let integers := empty.next (.register (.builtin .integer)
      { coercer := some fun _ => .null, validator := some fun _ => false })
    let arrays := empty.next (.register (.builtin .array) { validator := some fun _ => false })
    let given := Value.map [("ids", .array [.string "7"]), ("count", .int 2)]
    (validate integers .standard "batch" batch given).result =
        .ok [("ids", .array [.int 7]), ("count", .int 1)] ∧
      (validate arrays .standard "batch" batch given).result =
        .ok [("ids", .array [.int 7]), ("count", .int 1)] ∧
      validate integers .standard "batch" batch given =
        validate arrays .standard "batch" batch given ∧
      ∀ filter value, normalize integers ⟨"count", counted, filter⟩ value =
        normalize arrays ⟨"count", counted, filter⟩ value := by
  intro integers arrays given
  obtain ⟨alike, own, unseen, validator⟩ := validate_independent .standard batch
  have apart : ∀ u, batch.Consults u → u.key ≠ (TypeId.builtin .integer).key := by
    intro u consulted
    rw [consults_batch consulted]
    decide
  refine ⟨?_, ?_, ?_, fun filter => own ⟨"count", counted, filter⟩ rfl integers arrays⟩
  · rw [unseen empty (.builtin .integer) _ (.inr ⟨_, rfl⟩) apart "batch" given]
    exact validate_batch
  · rw [validator empty (.builtin .array) (fun _ => false) rfl "batch" given]
    exact validate_batch
  · refine alike integers arrays ?_ "batch" given
    intro entry member uncoerced t declared
    rw [consults_batch ⟨entry, member, uncoerced, declared⟩]
    exact .neither rfl rfl

def tally : Schema where
  arguments := ⟨[("n", { options := .ofType (.tag "integer") })], by decide⟩

/-- Under a handler a validator that is registered later decides what is valid. -/
theorem validate_handled_validator :
    let handled := empty.next (.register (.builtin .integer) { handler := some .integer })
    let checked := handled.next (.register (.builtin .integer) { validator := some fun _ => false })
    (validate handled .standard "tally" tally (.map [("n", .int 5)])).result =
        .ok [("n", .int 5)] ∧
      (validate checked .standard "tally" tally (.map [("n", .int 5)])).result =
        .error (.argumentType "n" "Integer") := by
  intro handled checked
  have built : FilterTable.Built .standard "n" (.ofType (.tag "integer")) _ := .plain rfl rfl
  rw [validate_map_result, validate_map_result]
  simp only [tally, Schema.entries, Sequence.mapM_cons, slotOf, built.build_result]
  exact ⟨rfl, rfl⟩

end Validation

end ArgCheck
