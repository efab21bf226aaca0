import ArgCheck.Proofs.TypeTable.Builtins
import ArgCheck.Proofs.Validation.Pointwise
import ArgCheck.Proofs.Validation.Refusal

set_option autoImplicit false

/-!
# Validating with the builtin handlers

Of the two ways in which an argument of a builtin type can be normalized, that of the handlers takes
less. `validate_builtins_narrow` compares a validation with the builtin handlers to one without any:
it refuses integers that would have to be cut off or cleared of separators, turns integers of a
float argument into floats, and agrees in everything else.
-/

namespace ArgCheck

namespace FilterTable

theorem resolve_of_typeId? (store : Option EntityStore) {declared : DeclaredType} {b : Builtin}
    (h : declared.typeId? = some (.builtin b)) :
    (standard.attach store).resolve declared = .ok (.builtin b) := by
  rw [resolve_attach]
  cases declared with
  | tag tag =>
    obtain ⟨_, named, same⟩ := Option.map_eq_some_iff.mp h
    cases same
    obtain rfl := Builtin.tag_of_ofTag? named
    exact standard_resolve_tag b
  | id t =>
    cases h
    exact standard_resolve_id b

end FilterTable

/-- By tag or by identifier. -/
def Argument.Declares (argument : Argument) (b : Builtin) : Prop :=
  argument.declared.typeId? = some (.builtin b)

namespace Validation

section Argument

variable {store : Option EntityStore} {filters : FilterTable} {name : String} {argument : Argument}
  {value : Value}

theorem normalForm_empty (uncoerced : argument.coercer = none) (null : value ≠ .null) :
    normalForm .empty filters name argument value = filtered filters name argument value := by
  rw [normalForm, Value.isNull_eq_false null, uncoerced]
  cases argument.declared.typeId? <;> rfl

theorem normalForm_handled (uncoerced : argument.coercer = none) (null : value ≠ .null)
    {b : Builtin} (declares : argument.Declares b) {handler : TypeHandler}
    (handled : Entries.lookup b TypeHandler.builtins = some handler) :
    normalForm .builtins filters name argument value = handler.checked name b value := by
  have forms := TypeTable.forms_builtins (.builtin b)
  rw [normalForm, Value.isNull_eq_false null, uncoerced, declares]
  simp only [TypeTable.hasCoercer, TypeTable.valid, TypeTable.coerce, forms, handled]
  rfl

theorem normalForm_unhandled (uncoerced : argument.coercer = none) (null : value ≠ .null)
    (unhandled : ∀ b, argument.Declares b → Entries.lookup b TypeHandler.builtins = none) :
    normalForm .builtins filters name argument value = filtered filters name argument value := by
  rw [normalForm, Value.isNull_eq_false null, uncoerced]
  cases typed : argument.declared.typeId? with
  | none => rfl
  | some t =>
    have forms := TypeTable.forms_builtins t
    cases t with
    | builtin b =>
      simp only [TypeTable.hasCoercer, forms, unhandled b typed]
      rfl
    | entity c =>
      simp only [TypeTable.hasCoercer, forms]
      rfl

theorem filtered_declared {b : Builtin} (declares : argument.Declares b)
    (bare : argument.options.itemsOf b = none) :
    filtered (FilterTable.standard.attach store) name argument value =
      (Filter.processBuiltin b ⟨name, argument.options⟩ value).result :=
  filtered_plain (FilterTable.resolve_of_typeId? store declares) bare value

/-- Only the filter casts. -/
def Strict (argument : Argument) (value : Value) : Prop :=
  argument.Declares .integer ∧ value.OnlyCast

/-- Only the handler converts. -/
def Widened (argument : Argument) (value : Value) : Prop :=
  argument.Declares .float ∧ ∃ n, value = .int n

theorem normalForm_strict (uncoerced : argument.coercer = none) (strict : Strict argument value) :
    normalForm .builtins filters name argument value = .error (.argumentType name "Integer") := by
  obtain ⟨declares, onlyCast⟩ := strict
  have null : value ≠ .null := by
    rintro rfl
    exact onlyCast
  have handled : Entries.lookup .integer TypeHandler.builtins = some .integer := rfl
  rw [normalForm_handled uncoerced null declares handled]
  exact TypeHandler.checked_of_onlyCast name onlyCast

theorem normalForm_widened (store : Option EntityStore) (name : String)
    (uncoerced : argument.coercer = none) (declares : argument.Declares .float) (n : Int64) :
    normalForm .builtins filters name argument (.int n) =
        .ok (.float (Binary64.ofInt n.toInt)) ∧
      normalForm .empty (FilterTable.standard.attach store) name argument (.int n) =
        .ok (.int n) := by
  have null : Value.int n ≠ .null := by simp
  have handled : Entries.lookup .float TypeHandler.builtins = some .float := rfl
  rw [normalForm_handled uncoerced null declares handled,
    normalForm_empty uncoerced null, filtered_declared declares rfl]
  exact ⟨rfl, rfl⟩

theorem normalForm_alike (uncoerced : argument.coercer = none) (lenient : ¬ Strict argument value)
    (kept : ¬ Widened argument value)
    (finite : argument.Declares .float → ∀ d, value = .decimal d → d.toFloat.isFinite = true) :
    normalForm .builtins (FilterTable.standard.attach store) name argument value =
      normalForm .empty (FilterTable.standard.attach store) name argument value := by
  by_cases null : value = .null
  · rw [null, normalForm_null, normalForm_null]
  · rw [normalForm_empty uncoerced null]
    by_cases handled : ∃ b handler, argument.Declares b ∧
        Entries.lookup b TypeHandler.builtins = some handler
    · obtain ⟨b, handler, declares, found⟩ := handled
      rw [normalForm_handled uncoerced null declares found,
        filtered_declared declares (TypeHandler.itemsOf_handled found _)]
      refine TypeHandler.checked_eq_processBuiltin ⟨name, argument.options⟩ found null ?_ ?_ ?_
      · rintro rfl onlyCast
        exact lenient ⟨declares, onlyCast⟩
      · rintro rfl n same
        exact kept ⟨declares, n, same⟩
      · rintro rfl
        exact finite declares
    · refine normalForm_unhandled uncoerced null fun b declares => ?_
      cases found : Entries.lookup b TypeHandler.builtins with
      | none => rfl
      | some handler => exact absurd ⟨b, handler, declares, found⟩ handled

end Argument

variable {schema : Schema} {given : Arguments}

/-- The decimals given to float arguments convert to finite doubles. -/
def Convertible (schema : Schema) (given : Arguments) : Prop :=
  ∀ entry ∈ schema.entries, entry.2.Declares .float → ∀ d,
    supplied given entry.1 entry.2 = .decimal d → d.toFloat.isFinite = true

/-- An argument ends up the same on both ways, but for the refused and the widened ones. -/
theorem pointwise_alike (store : Option EntityStore) {entry : String × Argument}
    (member : entry ∈ schema.entries) (uncoerced : entry.2.coercer = none)
    (convertible : Convertible schema given)
    (lenient : ¬ Strict entry.2 (supplied given entry.1 entry.2))
    (kept : ¬ Widened entry.2 (supplied given entry.1 entry.2)) :
    pointwise .builtins (FilterTable.standard.attach store) given entry =
      pointwise .empty (FilterTable.standard.attach store) given entry :=
  normalForm_alike uncoerced lenient kept (convertible entry member)

theorem pointwise_empty_of_builtins (store : Option EntityStore) {entry : String × Argument}
    (member : entry ∈ schema.entries) (uncoerced : entry.2.coercer = none)
    (convertible : Convertible schema given) {result : Value}
    (h : pointwise .builtins (FilterTable.standard.attach store) given entry = .ok result) :
    ∃ other, pointwise .empty (FilterTable.standard.attach store) given entry = .ok other ∧
      ((∃ n, entry.2.Declares .float ∧ supplied given entry.1 entry.2 = .int n ∧
          result = .float (Binary64.ofInt n.toInt) ∧ other = .int n) ∨
        ¬ Widened entry.2 (supplied given entry.1 entry.2) ∧ other = result) := by
  by_cases widened : Widened entry.2 (supplied given entry.1 entry.2)
  · obtain ⟨declares, n, integer⟩ := widened
    obtain ⟨converted, stands⟩ :=
      normalForm_widened store entry.1 uncoerced declares n
    rw [pointwise, integer, converted] at h
    refine ⟨.int n, ?_, .inl ⟨n, declares, integer, (Except.ok.inj h).symm, rfl⟩⟩
    rw [pointwise, integer, stands]
  · have lenient : ¬ Strict entry.2 (supplied given entry.1 entry.2) := by
      intro strict
      rw [pointwise, normalForm_strict uncoerced strict] at h
      cases h
    refine ⟨result, ?_, .inr ⟨widened, rfl⟩⟩
    rw [← pointwise_alike store member uncoerced convertible lenient widened, h]

theorem validate_empty_of_builtins {store : Option EntityStore} {name : String}
    (distinct : (Entries.keys given).Nodup)
    (uncoerced : ∀ entry ∈ schema.entries, entry.2.coercer = none)
    (convertible : Convertible schema given) {result : Arguments}
    (h : (validate .builtins (FilterTable.standard.attach store) name schema
      (.map given)).result = .ok result) :
    ∃ other, (validate .empty (FilterTable.standard.attach store) name schema
        (.map given)).result = .ok other ∧
      Entries.keys other = Entries.keys result ∧
      ∀ entry ∈ schema.entries,
        (∀ n, entry.2.Declares .float → supplied given entry.1 entry.2 = .int n →
          Entries.lookup entry.1 result = some (.float (Binary64.ofInt n.toInt)) ∧
            Entries.lookup entry.1 other = some (.int n)) ∧
        (¬ Widened entry.2 (supplied given entry.1 entry.2) →
          Entries.lookup entry.1 other = Entries.lookup entry.1 result) := by
  obtain ⟨⟨builds, complete, known⟩, keys⟩ := passed_of_validate_ok h
  have succeeds : ∀ entry ∈ schema.entries, ∃ pair,
      (pointwise .empty (FilterTable.standard.attach store) given entry).map
        (fun value => (entry.1, value)) = .ok pair := by
    intro entry member
    obtain ⟨value, came, -⟩ := lookup_of_validate_ok distinct h member
    obtain ⟨plain, stands, -⟩ :=
      pointwise_empty_of_builtins store member (uncoerced entry member) convertible came
    exact ⟨_, (Sequence.map_ok_iff _ _ _).mpr ⟨plain, stands, rfl⟩⟩
  obtain ⟨other, run⟩ := Sequence.mapM_ok_of_forall succeeds
  rw [← validate_eq_mapM .empty name distinct builds complete known] at run
  refine ⟨other, run, (passed_of_validate_ok run).2.trans keys.symm, ?_⟩
  intro entry member
  obtain ⟨value, came, found⟩ := lookup_of_validate_ok distinct h member
  obtain ⟨plain, stands, foundPlain⟩ := lookup_of_validate_ok distinct run member
  obtain ⟨_, stood, outcome⟩ :=
    pointwise_empty_of_builtins store member (uncoerced entry member) convertible came
  obtain rfl : plain = _ := Except.ok.inj (stands.symm.trans stood)
  rw [found, foundPlain]
  rcases outcome with ⟨n, declares, integer, rfl, rfl⟩ | ⟨kept, rfl⟩
  · constructor
    · intro m _ same
      cases integer.symm.trans same
      exact ⟨rfl, rfl⟩
    · intro kept
      exact absurd ⟨declares, n, integer⟩ kept
  · exact ⟨fun n declares integer => absurd ⟨declares, n, integer⟩ kept, fun _ => rfl⟩

theorem validate_builtins_refuses {store : Option EntityStore} {name : String}
    (distinct : (Entries.keys given).Nodup)
    (uncoerced : ∀ entry ∈ schema.entries, entry.2.coercer = none)
    (convertible : Convertible schema given) {other : Arguments}
    (h : (validate .empty (FilterTable.standard.attach store) name schema
      (.map given)).result = .ok other)
    (refused : ∀ result, (validate .builtins (FilterTable.standard.attach store) name schema
      (.map given)).result ≠ .ok result) :
    ∃ before entry after, schema.entries = before ++ entry :: after ∧
      (∀ earlier ∈ before, ¬ Strict earlier.2 (supplied given earlier.1 earlier.2)) ∧
      Strict entry.2 (supplied given entry.1 entry.2) ∧
      (validate .builtins (FilterTable.standard.attach store) name schema
        (.map given)).result = .error (.argumentType entry.1 "Integer") := by
  obtain ⟨⟨builds, complete, known⟩, -⟩ := passed_of_validate_ok h
  have run := validate_eq_mapM .builtins name distinct builds complete known
  cases outcome : (validate .builtins (FilterTable.standard.attach store) name schema
      (.map given)).result with
  | ok result => exact absurd outcome (refused result)
  | error error =>
    rw [run, Sequence.mapM_error_iff, Sequence.failsFirst_map_iff] at outcome
    obtain ⟨before, entry, after, place, succeed, fails⟩ := outcome
    have member : entry ∈ schema.entries := by simp [place]
    have strict : Strict entry.2 (supplied given entry.1 entry.2) := by
      by_contra lenient
      by_cases widened : Widened entry.2 (supplied given entry.1 entry.2)
      · obtain ⟨declares, n, integer⟩ := widened
        rw [pointwise, integer,
          (normalForm_widened store entry.1 (uncoerced entry member) declares n).1] at fails
        cases fails
      · rw [pointwise_alike store member (uncoerced entry member) convertible lenient
          widened] at fails
        obtain ⟨value, came, -⟩ := lookup_of_validate_ok distinct h member
        cases fails.symm.trans came
    refine ⟨before, entry, after, place, ?_, strict, ?_⟩
    · intro earlier inside strictBefore
      have declared : earlier ∈ schema.entries := by simp [place, inside]
      obtain ⟨value, came⟩ := succeed earlier inside
      rw [pointwise, normalForm_strict (uncoerced earlier declared) strictBefore] at came
      cases came
    · rw [pointwise, normalForm_strict (uncoerced entry member) strict] at fails
      exact congrArg Except.error (Except.error.inj fails).symm

/-- The builtin handlers only narrow what a validation takes. -/
theorem validate_builtins_narrow {types : TypeTable}
    (registered : (TypeTable.empty.registerBuiltins : Traced ArgumentError TypeTable).result =
      .ok types)
    (store : Option EntityStore) (name : String) (schema : Schema)
    (uncoerced : ∀ entry ∈ schema.entries, entry.2.coercer = none)
    (given : Table String Value) (convertible : Convertible schema given.entries) :
    let handled := fun value =>
      (validate types (FilterTable.standard.attach store) name schema value).result
    let plain := fun value =>
      (validate .empty (FilterTable.standard.attach store) name schema value).result
    (∀ result, handled (.map given.entries) = .ok result →
      ∃ other, plain (.map given.entries) = .ok other ∧
        Entries.keys other = Entries.keys result ∧
        ∀ entry ∈ schema.entries,
          (∀ n, entry.2.Declares .float → supplied given.entries entry.1 entry.2 = .int n →
            Entries.lookup entry.1 result = some (.float (Binary64.ofInt n.toInt)) ∧
              Entries.lookup entry.1 other = some (.int n)) ∧
          (¬ Widened entry.2 (supplied given.entries entry.1 entry.2) →
            Entries.lookup entry.1 other = Entries.lookup entry.1 result)) ∧
    (∀ other, plain (.map given.entries) = .ok other →
      (∀ result, handled (.map given.entries) ≠ .ok result) →
        ∃ before entry after, schema.entries = before ++ entry :: after ∧
          (∀ earlier ∈ before,
            ¬ Strict earlier.2 (supplied given.entries earlier.1 earlier.2)) ∧
          Strict entry.2 (supplied given.entries entry.1 entry.2) ∧
          handled (.map given.entries) = .error (.argumentType entry.1 "Integer")) ∧
    (∀ entry ∈ schema.entries, ¬ entry.2.Declares .integer → ¬ entry.2.Declares .float →
      pointwise types (FilterTable.standard.attach store) given.entries entry =
        pointwise .empty (FilterTable.standard.attach store) given.entries entry) ∧
    ∀ value, (∀ entries, value ≠ .map entries) → handled value = plain value := by
  obtain rfl : TypeTable.builtins = types :=
    Except.ok.inj (TypeTable.registerBuiltins_empty.symm.trans registered)
  refine ⟨?_, ?_, ?_, ?_⟩
  · intro result
    exact validate_empty_of_builtins given.distinct uncoerced convertible
  · intro other
    exact validate_builtins_refuses given.distinct uncoerced convertible
  · intro entry member noInteger noFloat
    exact pointwise_alike store member (uncoerced entry member) convertible
      (fun strict => noInteger strict.1) (fun widened => noFloat widened.1)
  · intro value shape
    exact (validate_other shape).trans (validate_other shape).symm

def parcel : Schema where
  arguments := ⟨[("count", { options := .ofType (.tag "integer") }),
    ("weight", { options := .ofType (.tag "float") }),
    ("price", { options := .ofType (.id (.builtin .float)) })], by decide⟩

def sent : Table String Value :=
  ⟨[("price", .decimal (.ofInt64 5)), ("weight", .int 2), ("count", .string " 7 ")], by decide⟩

theorem validate_builtins_narrow_parcel :
    (validate .builtins (FilterTable.standard.attach none) "parcel" parcel
        (.map sent.entries)).result =
      .ok [("count", .int 7), ("weight", .float (Binary64.ofInt 2)),
        ("price", .float (Binary64.ofInt 5))] ∧
    ∃ other, (validate .empty (FilterTable.standard.attach none) "parcel" parcel
        (.map sent.entries)).result = .ok other ∧
      Entries.lookup "count" other = some (.int 7) ∧
      Entries.lookup "weight" other = some (.int 2) := by
  have uncoerced : ∀ entry ∈ parcel.entries, entry.2.coercer = none := by
    simp [parcel, Schema.entries]
  have convertible : Convertible parcel sent.entries := by
    simp only [Convertible, parcel, Schema.entries, List.forall_mem_cons, List.not_mem_nil,
      false_implies, implies_true, and_true]
    refine ⟨?_, ?_, ?_⟩
    · intro _ d h
      cases h
    · intro _ d h
      cases h
    · intro _ d h
      cases h
      decide
  have builds : ∀ entry ∈ parcel.entries, ∃ filter,
      ((FilterTable.standard.attach none).build entry.1 entry.2.options).result = .ok filter := by
    simp only [parcel, Schema.entries, List.forall_mem_cons, List.not_mem_nil, false_implies,
      implies_true, and_true]
    refine ⟨?_, ?_, ?_⟩ <;> exact ⟨_, (FilterTable.Built.plain rfl rfl).build_result⟩
  have handled : (validate .builtins (FilterTable.standard.attach none) "parcel" parcel
      (.map sent.entries)).result =
        .ok [("count", .int 7), ("weight", .float (Binary64.ofInt 2)),
          ("price", .float (Binary64.ofInt 5))] := by
    rw [validate_eq_mapM .builtins "parcel" sent.distinct builds (by decide) (by decide),
      Sequence.mapM_ok_iff]
    exact .cons rfl (.cons rfl (.cons rfl .nil))
  obtain ⟨narrowed, -⟩ := validate_builtins_narrow TypeTable.registerBuiltins_empty none "parcel"
    parcel uncoerced sent convertible
  obtain ⟨other, plain, -, places⟩ := narrowed _ handled
  refine ⟨handled, other, plain, ?_, ?_⟩
  · refine (places ("count", _) (.head _)).2 ?_
    rintro ⟨_, n, h⟩
    cases h
  · exact ((places ("weight", _) (.tail _ (.head _))).1 2 rfl rfl).2

end Validation

end ArgCheck
