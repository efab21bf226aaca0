import ArgCheck.Proofs.Validation.Pointwise

set_option autoImplicit false

/-!
# Schemas with one argument more

A schema can be extended at its end by an argument that may be left out, without a change for those who do
not know of it: they get the results that they got before and a null at the end, or the error that they
got before (`validate_insert_optional`). Of the argument nothing is consulted but its filter, which is
built.
-/

namespace ArgCheck

namespace Schema

variable {schema : Schema} {key : String} {argument : Argument}

theorem entries_insert (fresh : key ∉ schema.names) :
    (schema.insert key argument).entries = schema.entries ++ [(key, argument)] :=
  Entries.insert_of_notMem argument fresh

theorem names_insert (fresh : key ∉ schema.names) :
    (schema.insert key argument).names = schema.names ++ [key] := by
  change Entries.keys (schema.insert key argument).entries = _
  rw [entries_insert fresh, Entries.keys_append]
  rfl

theorem namesWhere_insert (fresh : key ∉ schema.names) {test : String → Argument → Bool}
    (passed : test key argument = false) :
    (schema.insert key argument).namesWhere test = schema.namesWhere test := by
  unfold namesWhere
  rw [entries_insert fresh, List.filter_append, Entries.keys_append,
    List.filter_cons_of_neg (by simp [passed])]
  simp

end Schema

namespace Validation

variable {types : TypeTable} {filters : FilterTable} {name : String} {schema : Schema}
  {given : Arguments} {key : String} {argument : Argument}

theorem withDefaults_insert (fresh : key ∉ schema.names) (optional : argument.isOptional = true)
    (given : Arguments) :
    withDefaults (schema.insert key argument) given = withDefaults schema given := by
  have unfilled : addDefault (withDefaults schema given) (key, argument) =
      withDefaults schema given := by simp [addDefault, optional]
  rw [withDefaults, Schema.entries_insert fresh, List.foldl_append]
  exact unfilled

theorem lacking_insert (fresh : key ∉ schema.names) (optional : argument.isOptional = true)
    (given : Arguments) : lacking (schema.insert key argument) given = lacking schema given :=
  Schema.namesWhere_insert fresh (by simp [optional])

theorem foreign_insert (fresh : key ∉ schema.names) (absent : key ∉ Entries.keys given) :
    foreign (schema.insert key argument) given = foreign schema given := by
  unfold foreign
  refine List.filter_congr ?_
  intro other member
  have apart : other ≠ key := by
    rintro rfl
    exact absent member
  simp [Schema.names_insert fresh, apart]

theorem checkNames_insert (name : String) (fresh : key ∉ schema.names)
    (optional : argument.isOptional = true) (absent : key ∉ Entries.keys given) :
    checkNames name (schema.insert key argument) (withDefaults (schema.insert key argument) given) =
      checkNames name schema (withDefaults schema given) := by
  rw [checkNames_withDefaults, checkNames_withDefaults, lacking_insert fresh optional,
    foreign_insert fresh absent]

theorem slots_insert (fresh : key ∉ schema.names) {filter : Filter}
    (built : (filters.build key argument.options).result = .ok filter) :
    (schema.insert key argument).entries.mapM (slotOf filters) =
      (schema.entries.mapM (slotOf filters)).map (· ++ [⟨key, argument, filter⟩]) := by
  have last : slotOf filters (key, argument) = .ok ⟨key, argument, filter⟩ :=
    (slotOf_ok_iff _ _).mpr ⟨rfl, rfl, built⟩
  rw [Schema.entries_insert fresh, List.mapM_append]
  cases schema.entries.mapM (slotOf filters) with
  | error error => rfl
  | ok slots =>
    simp only [List.mapM_cons, List.mapM_nil, last]
    rfl

/-- Nothing is left for the name. -/
theorem normalizeIn_absent {slot : Slot} (absent : Entries.lookup slot.name given = none) :
    normalizeIn types given slot = .ok (slot.name, .null) := by
  rw [normalizeIn, absent]
  rfl

theorem normalizeSlots_append (distinct : (Entries.keys given).Nodup) {slots : List Slot}
    {slot : Slot} (names : (slots.map Slot.name ++ [slot.name]).Nodup)
    (absent : Entries.lookup slot.name given = none) :
    (normalizeSlots types given (slots ++ [slot])).result =
      (normalizeSlots types given slots).result.map (· ++ [(slot.name, .null)]) := by
  rw [normalizeSlots_result distinct (by simpa using names),
    normalizeSlots_result distinct (List.nodup_append.mp names).1, List.mapM_append]
  cases slots.mapM (normalizeIn types given) with
  | error error => rfl
  | ok entries =>
    simp only [List.mapM_cons, List.mapM_nil, normalizeIn_absent absent]
    rfl

/-- The argument may be left out, and there is a filter for it. -/
structure Omissible (filters : FilterTable) (key : String) (argument : Argument) : Prop where
  optional : argument.isOptional = true
  builds : ∃ filter, (filters.build key argument.options).result = .ok filter

theorem validate_insert (types : TypeTable) (name : String) (fresh : key ∉ schema.names)
    (omissible : Omissible filters key argument) (distinct : (Entries.keys given).Nodup)
    (absent : key ∉ Entries.keys given) :
    (validate types filters name (schema.insert key argument) (.map given)).result =
      (validate types filters name schema (.map given)).result.map (· ++ [(key, .null)]) := by
  obtain ⟨optional, filter, built⟩ := omissible
  -- What stops the first run in one of its phases stops the second there as well.
  rw [validate_map_result, validate_map_result, slots_insert fresh built,
    checkNames_insert name fresh optional absent, withDefaults_insert fresh optional]
  cases made : schema.entries.mapM (slotOf filters) with
  | error error => rfl
  | ok slots =>
    cases checkNames name schema (withDefaults schema given) with
    | error error => rfl
    | ok _ =>
      refine normalizeSlots_append (nodup_keys_withDefaults schema distinct) ?names ?absent
      case names =>
        rw [slot_names made]
        have names : (schema.insert key argument).names = schema.names ++ [key] :=
          Schema.names_insert fresh
        exact names ▸ (schema.insert key argument).nodup_names
      case absent =>
        have undeclared : schema.get? key = none := (Entries.lookup_eq_none _ _).mpr fresh
        rw [lookup_withDefaults, (Entries.lookup_eq_none _ _).mpr absent, undeclared]
        rfl

/-- The type, the default, the description and the coercer of the new argument make no difference. -/
theorem validate_insert_optional (types : TypeTable) (filters : FilterTable) (name : String)
    (schema : Schema) (key : String) (fresh : key ∉ schema.names) (given : Table String Value)
    (absent : key ∉ given.keys) :
    let run := fun schema => (validate types filters name schema (.map given.entries)).result
    (∀ argument, Omissible filters key argument →
      (schema.insert key argument).names = schema.names ++ [key] ∧
      (∀ normalized, run schema = .ok normalized →
        run (schema.insert key argument) = .ok (normalized ++ [(key, .null)])) ∧
      ∀ error, run schema = .error error → run (schema.insert key argument) = .error error) ∧
    ∀ argument other, Omissible filters key argument → Omissible filters key other →
      run (schema.insert key argument) = run (schema.insert key other) := by
  intro run
  have extended : ∀ argument, Omissible filters key argument →
      run (schema.insert key argument) = (run schema).map (· ++ [(key, .null)]) :=
    fun argument omissible => validate_insert types name fresh omissible given.distinct absent
  constructor
  · intro argument omissible
    refine ⟨Schema.names_insert fresh, ?_, ?_⟩
    · intro normalized succeeds
      rw [extended argument omissible, succeeds]
      rfl
    · intro error fails
      rw [extended argument omissible, fails]
      rfl
  · intro argument other omissible another
    rw [extended argument omissible, extended other another]

def counting (count : String) : Table String Value :=
  (Table.empty.insert "count" (.string count)).insert "label" .null

theorem validate_counting (count : String) :
    (validate integerHandled .standard "order" order (.map (counting count).entries)).result =
      (coerceChecked integerHandled (.builtin .integer) "count" (.string count)).map fun number =>
        [("count", number), ("unit", .string "items"), ("note", .null), ("label", .null)] := by
  have unit : pointwise integerHandled .standard (counting count).entries ("unit",
      { options := { declared := .tag "string", default := some (.string "items") } }) =
        .ok (.string "items") := by
    change filtered .standard "unit" _ (.string "items") = _
    rw [filtered_plain (b := .string) rfl rfl]
    rfl
  rw [validate_eq_mapM integerHandled "order" (counting count).distinct order_builds rfl rfl]
  simp only [order, Schema.entries, List.mapM_cons, List.mapM_nil, unit]
  change ((coerceChecked integerHandled (.builtin .integer) "count" (.string count)).map _).bind _ = _
  cases coerceChecked integerHandled (.builtin .integer) "count" (.string count) <;> rfl

/-- The argument has a default and a coercer that would both make something of it. -/
def gift : Argument where
  options := { declared := .tag "string", optional := true, default := some (.string "none") }
  coercer := some fun _ => .bool true

theorem validate_insert_optional_order :
    let run := fun schema count =>
      (validate integerHandled .standard "order" schema (.map (counting count).entries)).result
    run (order.insert "gift" gift) "7" = .ok [("count", .int 7), ("unit", .string "items"),
        ("note", .null), ("label", .null), ("gift", .null)] ∧
      run (order.insert "gift" gift) "few" = .error (.argumentType "count" "Integer") := by
  intro run
  have omissible : Omissible .standard "gift" gift :=
    ⟨rfl, _, (FilterTable.Built.plain rfl rfl).build_result⟩
  have absent : ∀ count, "gift" ∉ (counting count).keys := by
    intro count
    change "gift" ∉ ["count", "label"]
    decide
  have extended := fun count => ((validate_insert_optional integerHandled .standard "order" order
    "gift" (by decide) (counting count) (absent count)).1 gift omissible).2
  constructor
  · exact (extended "7").1 _ (validate_counting "7")
  · exact (extended "few").2 _ (validate_counting "few")

end Validation

end ArgCheck
