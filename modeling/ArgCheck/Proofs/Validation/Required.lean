import ArgCheck.Proofs.Validation.Refusal

set_option autoImplicit false

/-!
# Required arguments

A filter tells whether its argument is required, and a validation finds out which arguments it misses.
They agree on every argument but those with a null for a default, which is a default to the filter and
none to the validation (`isRequired_iff_missed`).
-/

namespace ArgCheck

/-- The filter keeps the options that it was built with, and its errors are those of values. -/
structure Filter.Faithful (filter : Filter) (options : Options) : Prop where
  kept : filter.options = options
  orderly : filter.Orderly

theorem FilterTable.Built.faithful {table : FilterTable} {name : String} {options : Options}
    {filter : Filter} (built : table.Built name options filter) : filter.Faithful options :=
  ⟨by cases built <;> rfl, built.orderly⟩

namespace Argument

/-- The argument may not be left out, and null stands where its default would. -/
def NullDefault (argument : Argument) : Prop :=
  argument.isOptional = false ∧ argument.options.default = some .null

theorem default?_eq_none_iff (argument : Argument) : argument.default? = none ↔
    argument.options.default = none ∨ argument.options.default = some .null := by
  unfold default?
  cases argument.options.default with
  | none => simp
  | some value => simp [Option.filter_eq_none_iff, Value.isNull_iff]

theorem isRequired_iff {argument : Argument} {filter : Filter}
    (faithful : filter.Faithful argument.options) :
    filter.isRequired = true ↔ argument.isOptional = false ∧ argument.options.default = none := by
  unfold Filter.isRequired isOptional
  rw [faithful.kept]
  simp [and_comm]

end Argument

namespace Validation

variable {types : TypeTable} {filters : FilterTable} {name : String} {schema : Schema}
  {given : Arguments}

/-- The call fails for want of the argument, and maybe of others. -/
def Missed (types : TypeTable) (filters : FilterTable) (name : String) (schema : Schema)
    (given : Arguments) (key : String) : Prop :=
  ∃ names, (validate types filters name schema (.map given)).result =
    .error (.missingArguments name names) ∧ key ∈ names

theorem mem_lacking_iff {entry : String × Argument} (declared : entry ∈ schema.entries)
    (omitted : entry.1 ∉ Entries.keys given) : entry.1 ∈ lacking schema given ↔
      entry.2.isOptional = false ∧ entry.2.default? = none := by
  have absent : Entries.contains entry.1 given = false := by
    rw [← Bool.not_eq_true, Entries.contains_iff]
    exact omitted
  rw [lacking, Schema.mem_namesWhere_iff declared, absent]
  simp

def Sound (filters : FilterTable) (schema : Schema) : Prop :=
  ∀ entry ∈ schema.entries, ∃ filter,
    (filters.build entry.1 entry.2.options).result = .ok filter ∧ filter.Faithful entry.2.options

theorem sound_of_customFree (plain : filters.CustomFree)
    (builds : ∀ entry ∈ schema.entries,
      ∃ filter, (filters.build entry.1 entry.2.options).result = .ok filter) :
    Sound filters schema := by
  intro entry member
  obtain ⟨filter, built⟩ := builds entry member
  exact ⟨filter, built, (plain.built built).faithful⟩

theorem Sound.slots (sound : Sound filters schema) :
    ∃ slots, schema.entries.mapM (slotOf filters) = .ok slots ∧
      ∀ slot ∈ slots, slot.filter.Orderly := by
  have builds : ∀ entry ∈ schema.entries,
      ∃ filter, (filters.build entry.1 entry.2.options).result = .ok filter := by
    intro entry member
    obtain ⟨filter, built, -⟩ := sound entry member
    exact ⟨filter, built⟩
  obtain ⟨slots, filtersBuilt⟩ := mapM_slotOf_ok builds
  refine ⟨slots, filtersBuilt, ?_⟩
  intro slot member
  obtain ⟨entry, known, made⟩ := Sequence.exists_of_mapM_ok filtersBuilt member
  obtain ⟨filter, built, faithful⟩ := sound entry known
  rw [((slotOf_ok_iff _ _).mp made).2.2, Except.ok.injEq] at built
  rw [built]
  exact faithful.orderly

theorem missed_iff (sound : Sound filters schema) (key : String) :
    Missed types filters name schema given key ↔ key ∈ lacking schema given := by
  obtain ⟨slots, filtersBuilt, orderly⟩ := sound.slots
  have run := validate_map_result types filters name schema given
  rw [filtersBuilt, checkNames_withDefaults] at run
  constructor
  · rintro ⟨names, fails, member⟩
    by_cases complete : lacking schema given = []
    · rw [run, if_neg (not_not.mpr complete)] at fails
      by_cases known : foreign schema given = []
      · rw [if_neg (not_not.mpr known)] at fails
        have kind := orderly_error_kind orderly fails
        simp [ErrorKind.ofProcessing, ArgumentError.kind] at kind
      · rw [if_pos known] at fails
        cases fails
    · rw [run, if_pos complete] at fails
      cases fails
      exact member
  · intro member
    refine ⟨_, ?_, member⟩
    rw [run, if_pos (List.ne_nil_of_mem member)]
    rfl

/-- A filter requires its argument just where a validation misses it, apart from null defaults: there
the argument is missed although its filter does not require it. -/
theorem isRequired_iff_missed (types : TypeTable) (filters : FilterTable) (name : String)
    (schema : Schema) (sound : Sound filters schema) (entry : String × Argument)
    (declared : entry ∈ schema.entries) (filter : Filter)
    (built : (filters.build entry.1 entry.2.options).result = .ok filter) (given : Arguments)
    (omitted : entry.1 ∉ Entries.keys given) :
    (¬ entry.2.NullDefault →
      (filter.isRequired = true ↔ Missed types filters name schema given entry.1)) ∧
    (entry.2.NullDefault →
      filter.isRequired = false ∧ Missed types filters name schema given entry.1) := by
  have faithful : filter.Faithful entry.2.options := by
    obtain ⟨same, known, faithful⟩ := sound entry declared
    rw [built, Except.ok.injEq] at known
    rwa [known]
  rw [missed_iff sound, mem_lacking_iff declared omitted, Argument.default?_eq_none_iff,
    ← Bool.not_eq_true filter.isRequired, Argument.isRequired_iff faithful]
  constructor
  · intro other
    constructor
    · rintro ⟨compulsory, bare⟩
      exact ⟨compulsory, .inl bare⟩
    · rintro ⟨compulsory, bare | null⟩
      · exact ⟨compulsory, bare⟩
      · exact absurd ⟨compulsory, null⟩ other
  · rintro ⟨compulsory, null⟩
    refine ⟨?_, compulsory, .inr null⟩
    rintro ⟨-, bare⟩
    rw [bare] at null
    cases null

def memo : Schema where
  arguments := ⟨[("title", { options := .ofType (.tag "string") }),
    ("note", { options := { declared := .tag "string", default := some .null } })], by decide⟩

theorem memo_builds : ∀ entry ∈ memo.entries,
    ∃ filter, (FilterTable.standard.build entry.1 entry.2.options).result = .ok filter := by
  simp only [memo, Schema.entries, List.forall_mem_cons, List.not_mem_nil, false_implies,
    implies_true, and_true]
  exact ⟨⟨_, (FilterTable.Built.plain rfl rfl).build_result⟩,
    ⟨_, (FilterTable.Built.plain rfl rfl).build_result⟩⟩

theorem isRequired_iff_missed_memo :
    ∃ title note,
      (FilterTable.standard.build "title" (.ofType (.tag "string"))).result = .ok title ∧
      title.isRequired = true ∧
      Missed .empty .standard "memo" memo [("note", .string "late")] "title" ∧
      (FilterTable.standard.build "note"
        { declared := .tag "string", default := some .null }).result = .ok note ∧
      note.isRequired = false ∧ Missed .empty .standard "memo" memo [] "note" := by
  have sound := sound_of_customFree FilterTable.customFree_standard memo_builds
  have title : FilterTable.Built .standard "title" (.ofType (.tag "string")) _ := .plain rfl rfl
  have note : FilterTable.Built .standard "note"
    { declared := .tag "string", default := some .null } _ := .plain rfl rfl
  have agrees := (isRequired_iff_missed .empty .standard "memo" memo sound _ (.head _) _
    title.build_result [("note", .string "late")] (by decide)).1
  have differs := (isRequired_iff_missed .empty .standard "memo" memo sound _ (.tail _ (.head _)) _
    note.build_result [] (by decide)).2
  have other : ¬ Argument.NullDefault { options := .ofType (.tag "string") } := by
    rintro ⟨-, null⟩
    cases null
  exact ⟨_, _, title.build_result, rfl, (agrees other).mp rfl, note.build_result,
    differs ⟨rfl, rfl⟩⟩

/-- Nothing but the note is left out, which its filter does not require, and it is missed. -/
theorem memo_note_missed :
    ∃ filter, (FilterTable.standard.build "note"
        { declared := .tag "string", default := some .null }).result = .ok filter ∧
      filter.isRequired = false ∧
      (validate .empty .standard "memo" memo (.map [("title", .string "Minutes")])).result =
        .error (.missingArguments "memo" ["note"]) := by
  have title : FilterTable.Built .standard "title" (.ofType (.tag "string")) _ := .plain rfl rfl
  have note : FilterTable.Built .standard "note"
    { declared := .tag "string", default := some .null } _ := .plain rfl rfl
  refine ⟨_, note.build_result, rfl, ?_⟩
  rw [validate_map_result]
  simp only [memo, Schema.entries, Sequence.mapM_cons, slotOf, title.build_result,
    note.build_result]
  rfl

end Validation

end ArgCheck
