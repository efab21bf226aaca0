import ArgCheck.Engine
import ArgCheck.Proofs.Definition.Writing
import ArgCheck.Proofs.Validator.Calls

set_option autoImplicit false

/-!
# Putting an engine together

All schemas of the settings are converted and checked before the first of them is registered, and all
of them are registered before those given in code. `build_order` gives the error that comes out of
each of the three steps, and says what the engine has when nothing fails: under each name the last
schema given in code or else the one of the settings, and the tables given with the store, and the
builtin handlers where they are asked for, added to them.
-/

namespace ArgCheck

namespace Sequence

variable {α ε : Type}

/-- Some item is refused with this error, and every item before it is taken. -/
def FirstRefused (taken : α → Prop) (refused : α → ε → Prop) (items : List α) (item : α)
    (error : ε) : Prop :=
  ∃ before after, items = before ++ item :: after ∧
    (∀ earlier ∈ before, taken earlier) ∧ refused item error

theorem eraseDups_of_nodup [BEq α] [LawfulBEq α] {items : List α}
    (distinct : items.Nodup) : items.eraseDups = items := by
  induction items with
  | nil => rfl
  | cons item rest ih =>
    obtain ⟨fresh, distinct⟩ := List.nodup_cons.mp distinct
    have kept : rest.filter (fun other => !other == item) = rest := by
      rw [List.filter_eq_self]
      intro other member
      have apart : other ≠ item := fun same => fresh (same ▸ member)
      simpa using apart
    rw [List.eraseDups_cons, kept, ih distinct]

end Sequence

open Sequence

theorem Schema.conflicts_ne_nil {schema : Schema}
    (offends : ∃ entry ∈ schema.entries, entry.2.Offends) : schema.conflicts ≠ [] := by
  obtain ⟨entry, member, torn⟩ := offends
  intro none
  exact conflicts_eq_nil_iff.mp none entry member torn

namespace Settings

/-- The definitions convert to the schema, in which no argument is optional with a default. -/
def Declares (definitions : Table String Definition) (schema : Schema) : Prop :=
  Schema.ofDefinitions definitions = .ok schema ∧ ∀ entry ∈ schema.entries, ¬ entry.2.Offends

abbrev DeclaresAll : List (String × Table String Definition) → List (String × Schema) → Prop :=
  List.Forall₂ fun entry call => call.1 = entry.1 ∧ Declares entry.2 call.2

/-- Why definitions are not taken: they do not convert, or arguments of the schema offend. -/
inductive Refused (name : String) (definitions : Table String Definition) : ArgumentError → Prop
  | unread {error : ArgumentError} (unread : Schema.ofDefinitions definitions = .error error) :
      Refused name definitions error
  | torn {schema : Schema} (read : Schema.ofDefinitions definitions = .ok schema)
      (offends : ∃ entry ∈ schema.entries, entry.2.Offends) :
      Refused name definitions (.schemaDefinition name schema.conflicts)

variable {name : String} {definitions : Table String Definition} {schema : Schema}

theorem schemaOf_of_ofDefinitions (read : Schema.ofDefinitions definitions = .ok schema) :
    schemaOf name definitions = (Validator.checkSchema name schema).map fun _ => schema := by
  rw [schemaOf, read]
  change ((Validator.checkSchema name schema).bind fun _ => .ok schema) = _
  cases Validator.checkSchema name schema <;> rfl

theorem schemaOf_of_declares (declares : Declares definitions schema) :
    schemaOf name definitions = .ok schema := by
  obtain ⟨read, clean⟩ := declares
  have passed : Validator.checkSchema name schema = .ok () := by
    rw [Validator.checkSchema, Schema.conflicts_eq_nil_iff.mpr clean]
    rfl
  rw [schemaOf_of_ofDefinitions read, passed]
  rfl

theorem schemaOf_of_refused {error : ArgumentError} (refused : Refused name definitions error) :
    schemaOf name definitions = .error error := by
  cases refused with
  | unread unread =>
    rw [schemaOf, unread]
    rfl
  | @torn schema read offends =>
    have failed : Validator.checkSchema name schema =
        .error (.schemaDefinition name schema.conflicts) := by
      rw [Validator.checkSchema, if_neg (by simpa using Schema.conflicts_ne_nil offends)]
    rw [schemaOf_of_ofDefinitions read, failed]
    rfl

section DeclaresAll

variable {entries : List (String × Table String Definition)} {schemas : List (String × Schema)}

theorem schemasOf_of_declares (declared : DeclaresAll entries schemas) :
    schemasOf entries = .ok schemas := by
  induction declared with
  | nil => rfl
  | @cons entry call entries schemas head _ ih =>
    obtain ⟨name, definitions⟩ := entry
    obtain ⟨other, schema⟩ := call
    obtain ⟨rfl, declares⟩ := head
    rw [schemasOf, schemaOf_of_declares declares, ih]
    rfl

theorem keys_of_declares (declared : DeclaresAll entries schemas) :
    schemas.map Prod.fst = Entries.keys entries := by
  induction declared with
  | nil => rfl
  | cons head _ ih => rw [List.map_cons, Entries.keys_cons, head.1, ih]

theorem clean_of_declares (declared : DeclaresAll entries schemas) {call : String × Schema}
    (member : call ∈ schemas) : ∀ entry ∈ call.2.entries, ¬ entry.2.Offends := by
  induction declared with
  | nil => cases member
  | cons head _ ih =>
    rcases List.mem_cons.mp member with rfl | later
    · exact head.2.2
    · exact ih later

end DeclaresAll

theorem schemasOf_of_refused {entries : List (String × Table String Definition)}
    {entry : String × Table String Definition} {error : ArgumentError}
    (first : FirstRefused (fun entry => ∃ schema, Declares entry.2 schema)
      (fun entry => Refused entry.1 entry.2) entries entry error) :
    schemasOf entries = .error (.schema entry.1 error) := by
  obtain ⟨before, after, rfl, taken, refused⟩ := first
  induction before with
  | nil =>
    rw [List.nil_append, schemasOf, schemaOf_of_refused refused]
    rfl
  | cons earlier before ih =>
    obtain ⟨schema, declares⟩ := taken earlier List.mem_cons_self
    rw [List.cons_append, schemasOf, schemaOf_of_declares declares,
      ih fun entry member => taken entry (List.mem_cons_of_mem earlier member)]
    rfl

end Settings

namespace Schema

variable {filters : FilterTable} {name : String} {schema : Schema}

/-- The filter of some argument cannot be built; the error is that of the first one. -/
def Unbuilt (schema : Schema) (filters : FilterTable) (error : ArgumentError) : Prop :=
  FailsFirst (fun entry : String × Argument => (filters.build entry.1 entry.2.options).result)
    schema.entries error

def Registrable (schema : Schema) (filters : FilterTable) : Prop :=
  (∀ entry ∈ schema.entries, ¬ entry.2.Offends) ∧ schema.Builds filters

/-- Why a schema is not registered: arguments offend, or else a filter cannot be built. -/
inductive Rejected (schema : Schema) (filters : FilterTable) (name : String) : ArgumentError → Prop
  | torn (offends : ∃ entry ∈ schema.entries, entry.2.Offends) :
      Rejected schema filters name (.schemaDefinition name schema.conflicts)
  | unbuilt {error : ArgumentError} (clean : ∀ entry ∈ schema.entries, ¬ entry.2.Offends)
      (unbuilt : schema.Unbuilt filters error) : Rejected schema filters name error

end Schema

namespace Validator

variable {validator : Validator} {name : String} {schema : Schema}

theorem registerSchema_of_registrable (registrable : schema.Registrable validator.filters) :
    (validator.registerSchema name schema).result = .ok (validator.addSchema name schema) :=
  (registerSchema_ok_iff _).mpr ⟨registrable, rfl⟩

theorem registerSchema_of_rejected {error : ArgumentError}
    (rejected : schema.Rejected validator.filters name error) :
    (validator.registerSchema name schema).result = .error error := by
  cases rejected with
  | torn offends =>
    exact congrArg Traced.result
      (registerSchema_of_conflicts (Schema.conflicts_ne_nil offends))
  | unbuilt clean unbuilt =>
    rw [registerSchema_result (Schema.conflicts_eq_nil_iff.mpr clean), map_error_iff,
      mapM_error_iff]
    exact (Validation.failsFirst_slotOf _ _).mpr unbuilt

theorem accepted_self {calls : List (String × Schema)}
    (registrable : ∀ call ∈ calls, call.2.Registrable validator.filters) :
    validator.accepted calls = calls := by
  induction calls generalizing validator with
  | nil => rfl
  | cons call rest ih =>
    obtain ⟨first, others⟩ := List.forall_mem_cons.mp registrable
    have taken : (validator.registerSchema call.1 call.2).result = _ :=
      registerSchema_of_registrable first
    have kept : (validator.addSchema call.1 call.2).accepted rest = rest := ih others
    simp only [accepted, taken, kept]

end Validator

namespace EngineParts

open Validator (registerSchema_of_registrable registerSchema_of_rejected)

variable {wrap : String → ArgumentError → EngineError} {validator : Validator}
  {calls : List (String × Schema)}

theorem registerAll_cons_of_registrable {call : String × Schema}
    (first : call.2.Registrable validator.filters) (rest : List (String × Schema)) :
    (registerAll wrap validator (call :: rest)).result =
      (registerAll wrap (validator.addSchema call.1 call.2) rest).result := by
  rw [registerAll, Traced.result_bind, Traced.result_mapError,
    registerSchema_of_registrable first]
  rfl

theorem registerAll_of_registrable
    (registrable : ∀ call ∈ calls, call.2.Registrable validator.filters) :
    (registerAll wrap validator calls).result = .ok (validator.registerAll calls) := by
  induction calls generalizing validator with
  | nil => rfl
  | cons call rest ih =>
    obtain ⟨first, others⟩ := List.forall_mem_cons.mp registrable
    have run : (registerAll wrap (validator.addSchema call.1 call.2) rest).result = _ := ih others
    rw [registerAll_cons_of_registrable first, run, Validator.registerAll, Validator.registerAll,
      List.foldl_cons, Validator.attempt_of_ok (registerSchema_of_registrable first)]

theorem registerAll_of_rejected {call : String × Schema} {error : ArgumentError}
    (first : FirstRefused (fun call => call.2.Registrable validator.filters)
      (fun call => call.2.Rejected validator.filters call.1) calls call error) :
    (registerAll wrap validator calls).result = .error (wrap call.1 error) := by
  obtain ⟨before, after, rfl, taken, rejected⟩ := first
  induction before generalizing validator with
  | nil =>
    rw [List.nil_append, registerAll, Traced.result_bind, Traced.result_mapError,
      registerSchema_of_rejected rejected]
    rfl
  | cons earlier before ih =>
    obtain ⟨here, later⟩ := List.forall_mem_cons.mp taken
    rw [List.cons_append, registerAll_cons_of_registrable here]
    exact ih later rejected

variable {parts : EngineParts}

theorem typeTable_result (parts : EngineParts) :
    parts.typeTable.result = .ok (if parts.settings.builtinHandlers then
      (parts.types.getD .empty).next .registerBuiltins else parts.types.getD .empty) := by
  rw [typeTable]
  split
  · exact TypeTable.perform_result _ .registerBuiltins
  · rfl

def bare (parts : EngineParts) : Validator where
  types := if parts.settings.builtinHandlers then
    (parts.types.getD .empty).next .registerBuiltins else parts.types.getD .empty
  filters := parts.filterTable

theorem build_of_argumentSchemas {configured : List (String × Schema)}
    (read : parts.settings.argumentSchemas = .ok configured) :
    parts.build.result =
      (registerAll (fun name error => .settings (.schema name error)) parts.bare
        configured).result.bind fun validator =>
          (registerAll (fun _ error => .schema error) validator parts.schemas).result.map
            Engine.mk := by
  rw [build, read]
  simp only [Traced.result_bind, Traced.result_ofExcept, Except.mapError, Except.bind,
    typeTable_result, Traced.result_emit, Traced.result_pure]
  rfl

theorem build_of_registrable {configured : List (String × Schema)}
    (read : parts.settings.argumentSchemas = .ok configured)
    (registrable : ∀ call ∈ configured, call.2.Registrable parts.filterTable) :
    parts.build.result =
      (registerAll (fun _ error => .schema error) (parts.bare.registerAll configured)
        parts.schemas).result.map Engine.mk := by
  change ∀ call ∈ configured, call.2.Registrable parts.bare.filters at registrable
  rw [build_of_argumentSchemas read, registerAll_of_registrable registrable]
  rfl

end EngineParts

namespace TypeTable

/-- The builtin handlers take the places of handlers, and leave validators and coercers. -/
theorem forms_registerBuiltins (table : TypeTable) (t : TypeId) :
    (table.next .registerBuiltins).forms t = (table.forms t).merge (builtins.forms t) := by
  have validator := separate_validator.formsAt_next table .registerBuiltins t.key
  have coercer := separate_coercer.formsAt_next table .registerBuiltins t.key
  have handler := separate_handler.formsAt_next table .registerBuiltins t.key
  change (table.next .registerBuiltins).formsAt t.key =
    (table.formsAt t.key).merge (builtins.forms t)
  rw [forms_builtins]
  generalize (table.next .registerBuiltins).formsAt t.key = after at *
  obtain ⟨newValidator, newCoercer, newHandler⟩ := after
  simp only at validator coercer handler
  subst validator coercer handler
  cases t with
  | builtin b => cases b <;> rfl
  | entity c => rfl

end TypeTable

namespace EngineParts

/-- What an engine has that was put together from the parts and the schemas of their settings. -/
structure Assembled (parts : EngineParts) (configured : List (String × Schema)) (engine : Engine) :
    Prop where
  names : engine.validator.schemaNames = configured.map Prod.fst ++
    ((parts.schemas.map Prod.fst).filter (· ∉ configured.map Prod.fst)).eraseDups
  /-- The last one given in code, or else the one of the settings. -/
  schema : ∀ name, engine.validator.schema? name =
    (Entries.lookup name parts.schemas.reverse).or (Entries.lookup name configured)
  filters : engine.validator.filters = { parts.filters.getD .standard with
    store := parts.store.or (parts.filters.getD .standard).store }
  record : ∀ name options, engine.validator.filters.resolve options.declared = .ok .record →
    (engine.validator.filters.build name options).result =
      .ok (.record ⟨⟨name, options⟩, parts.store.or (parts.filters.getD .standard).store⟩)
  types : ∀ t, engine.validator.types.forms t =
    if parts.settings.builtinHandlers then
      ((parts.types.getD .empty).forms t).merge (TypeTable.builtins.forms t)
    else (parts.types.getD .empty).forms t

variable {parts : EngineParts}

theorem filterTable_eq (parts : EngineParts) :
    parts.filterTable = { parts.filters.getD .standard with
      store := parts.store.or (parts.filters.getD .standard).store } := by
  rw [filterTable]
  cases parts.store <;> rfl

theorem bare_forms (parts : EngineParts) (t : TypeId) :
    parts.bare.types.forms t = if parts.settings.builtinHandlers then
      ((parts.types.getD .empty).forms t).merge (TypeTable.builtins.forms t)
    else (parts.types.getD .empty).forms t := by
  rw [bare]
  split
  · exact TypeTable.forms_registerBuiltins _ t
  · rfl

theorem assembled {configured : List (String × Schema)}
    (distinct : (configured.map Prod.fst).Nodup)
    (registrable : ∀ call ∈ configured, call.2.Registrable parts.filterTable)
    (coded : ∀ call ∈ parts.schemas, call.2.Registrable parts.filterTable) :
    parts.Assembled configured
      ⟨(parts.bare.registerAll configured).registerAll parts.schemas⟩ := by
  obtain ⟨types, filters⟩ : ((parts.bare.registerAll configured).registerAll parts.schemas).types =
      parts.bare.types ∧ ((parts.bare.registerAll configured).registerAll parts.schemas).filters =
        parts.filterTable := by
    obtain ⟨types, filters⟩ := parts.bare.registerAll_tables configured
    obtain ⟨sameTypes, sameFilters⟩ :=
      (parts.bare.registerAll configured).registerAll_tables parts.schemas
    exact ⟨sameTypes.trans types, sameFilters.trans filters⟩
  have first : (parts.bare.registerAll configured).Records configured := by
    have records := (Validator.records_empty parts.bare.types parts.filterTable).registerAll configured
    rwa [Validator.accepted_self registrable] at records
  have both : ((parts.bare.registerAll configured).registerAll parts.schemas).Records
      (configured ++ parts.schemas) := by
    have records := first.registerAll parts.schemas
    rwa [Validator.accepted_self] at records
    rwa [(parts.bare.registerAll_tables configured).2]
  constructor
  case names =>
    have fresh : (parts.schemas.map Prod.fst).removeAll (configured.map Prod.fst) =
        (parts.schemas.map Prod.fst).filter (· ∉ configured.map Prod.fst) := by
      refine List.filter_congr ?_
      intro name _
      simp
    rw [both.names, List.map_append, List.eraseDups_append, eraseDups_of_nodup distinct, fresh]
  case schema =>
    intro name
    have turned : Entries.lookup name configured.reverse = Entries.lookup name configured :=
      (Entries.lookup_perm (List.reverse_perm configured).symm distinct name).symm
    rw [both.schema, List.reverse_append, Entries.lookup_append, turned]
  case filters => exact filters.trans parts.filterTable_eq
  case record =>
    intro name options kind
    rw [filters, filterTable_eq] at kind ⊢
    exact (FilterTable.Built.record kind).build_result
  case types =>
    intro t
    rw [types, bare_forms]

/-- The settings are read as a whole before anything is registered, then come their schemas and then
those given in code, which replace them. The first failure in this order is the error. -/
theorem build_order (parts : EngineParts) :
    (∀ entry error,
      FirstRefused (fun entry => ∃ schema, Settings.Declares entry.2 schema)
        (fun entry => Settings.Refused entry.1 entry.2) parts.settings.schemas.entries entry error →
      parts.build.result = .error (.settings (.schema entry.1 error))) ∧
    ∀ configured : List (String × Schema),
      Settings.DeclaresAll parts.settings.schemas.entries configured →
      (∀ call error,
        FirstRefused (fun call => call.2.Builds parts.filterTable)
          (fun call => call.2.Unbuilt parts.filterTable) configured call error →
        parts.build.result = .error (.settings (.schema call.1 error))) ∧
      ((∀ call ∈ configured, call.2.Builds parts.filterTable) →
        (∀ call error,
          FirstRefused (fun call => call.2.Registrable parts.filterTable)
            (fun call => call.2.Rejected parts.filterTable call.1) parts.schemas call error →
          parts.build.result = .error (.schema error)) ∧
        ((∀ call ∈ parts.schemas, call.2.Registrable parts.filterTable) →
          ∃ engine, parts.build.result = .ok engine ∧ parts.Assembled configured engine)) := by
  constructor
  · intro entry error first
    have refused : parts.settings.argumentSchemas = .error _ := Settings.schemasOf_of_refused first
    rw [build, refused]
    rfl
  · intro configured declared
    have read : parts.settings.argumentSchemas = .ok configured :=
      Settings.schemasOf_of_declares declared
    refine ⟨?_, ?_⟩
    · rintro call error ⟨before, after, split, taken, unbuilt⟩
      have clean : ∀ call ∈ configured, ∀ entry ∈ call.2.entries, ¬ entry.2.Offends :=
        fun call member => Settings.clean_of_declares declared member
      have rejected : FirstRefused (fun call => call.2.Registrable parts.bare.filters)
          (fun call => call.2.Rejected parts.bare.filters call.1) configured call error := by
        refine ⟨before, after, split, ?_, .unbuilt (clean call (by simp [split])) unbuilt⟩
        intro earlier member
        exact ⟨clean earlier (by simp [split, member]), taken earlier member⟩
      rw [build_of_argumentSchemas read, registerAll_of_rejected rejected]
      rfl
    · intro builds
      have registrable : ∀ call ∈ configured, call.2.Registrable parts.filterTable :=
        fun call member => ⟨Settings.clean_of_declares declared member, builds call member⟩
      have run := build_of_registrable read registrable
      have same : (parts.bare.registerAll configured).filters = parts.filterTable :=
        (parts.bare.registerAll_tables configured).2
      constructor
      · intro call error first
        rw [← same] at first
        rw [run, registerAll_of_rejected first]
        rfl
      · intro coded
        have distinct : (configured.map Prod.fst).Nodup :=
          Settings.keys_of_declares declared ▸ parts.settings.schemas.distinct
        refine ⟨_, ?_, assembled distinct registrable coded⟩
        rw [run, registerAll_of_registrable (by rwa [same])]
        rfl

def textOf (tag : String) : Schema where
  arguments := ⟨[("text", { options := .ofType (.tag tag) })], by simp⟩

def definitionsOf (tag : String) : Table String Definition :=
  ⟨[("text", { declared := .string tag })], by simp⟩

def tornDefinitions : Table String Definition :=
  ⟨[("page", { declared := .string "string", optional := true, default := some (.string "x") })],
    by simp⟩

def desk (configured : SchemaDefinitions) (schemas : List (String × Schema)) : EngineParts where
  settings := { builtinHandlers := true, schemas := configured }
  store := some MemoryStore.sample.toStore
  schemas

def notes : SchemaDefinitions := ⟨[("note", definitionsOf "string")], by decide⟩

theorem declares_definitionsOf (tag : String) :
    Settings.Declares (definitionsOf tag) (textOf tag) := by
  refine ⟨rfl, ?_⟩
  rintro entry member ⟨optional, -⟩
  obtain rfl := List.mem_singleton.mp member
  cases optional

theorem refused_tornDefinitions (name : String) :
    Settings.Refused name tornDefinitions (.schemaDefinition name ["page"]) := by
  have read : Schema.ofDefinitions tornDefinitions = .ok _ := rfl
  refine .torn read ⟨_, List.mem_singleton_self _, rfl, .string "x", rfl, ?_⟩
  intro same
  cases same

theorem registrable_textOf {parts : EngineParts} (usual : parts.filters = none) {b : Builtin}
    (bare : (Options.ofType (.tag b.tag)).itemsOf b = none) :
    (textOf b.tag).Registrable parts.filterTable := by
  refine ⟨(declares_definitionsOf b.tag).2, ?_⟩
  intro entry member
  obtain rfl := List.mem_singleton.mp member
  have kind : parts.filterTable.resolve (.tag b.tag) = .ok (.builtin b) := by
    rw [filterTable, FilterTable.resolve_attach, usual]
    exact FilterTable.standard_resolve_tag b
  exact ⟨_, (FilterTable.Built.plain kind bare).build_result⟩

theorem unbuilt_textOf {parts : EngineParts} (usual : parts.filters = none) :
    (textOf "uuid").Unbuilt parts.filterTable (.unknownType "uuid") := by
  have unknown : parts.filterTable.resolve (.tag "uuid") = .error (.unknownType "uuid") := by
    rw [filterTable, FilterTable.resolve_attach, usual]
    rfl
  refine ⟨[], _, [], rfl, by simp, ?_⟩
  change (parts.filterTable.build "text" (.ofType (.tag "uuid"))).result = _
  rw [FilterTable.build_result]
  simp only [Options.ofType, unknown]
  rfl

theorem build_order_desk :
    (desk ⟨[("early", definitionsOf "uuid"), ("late", tornDefinitions)], by decide⟩ []).build.result =
        .error (.settings (.schema "late" (.schemaDefinition "late" ["page"]))) ∧
      (desk ⟨[("early", definitionsOf "uuid")], by decide⟩
          [("odd", textOf "uuid")]).build.result =
        .error (.settings (.schema "early" (.unknownType "uuid"))) ∧
      (desk notes [("note", textOf "symbol"), ("odd", textOf "uuid")]).build.result =
        .error (.schema (.unknownType "uuid")) ∧
      ∃ engine, (desk notes [("mail", textOf "symbol"), ("note", textOf "symbol"),
            ("mail", textOf "date")]).build.result = .ok engine ∧
        engine.validator.schemaNames = ["note", "mail"] ∧
        engine.validator.schema? "mail" = some (textOf "date") ∧
        engine.validator.schema? "note" = some (textOf "symbol") ∧
        engine.validator.filters.store = some MemoryStore.sample.toStore := by
  have symbol (schemas : List (String × Schema)) :
      (textOf "symbol").Registrable (desk notes schemas).filterTable :=
    registrable_textOf (b := .symbol) rfl rfl
  have date (schemas : List (String × Schema)) :
      (textOf "date").Registrable (desk notes schemas).filterTable :=
    registrable_textOf (b := .date) rfl rfl
  have declared : Settings.DeclaresAll notes.entries [("note", textOf "string")] :=
    .cons ⟨rfl, declares_definitionsOf "string"⟩ .nil
  have builds (schemas : List (String × Schema)) :
      ∀ call ∈ [("note", textOf "string")], call.2.Builds (desk notes schemas).filterTable := by
    intro call member
    obtain rfl := List.mem_singleton.mp member
    exact (registrable_textOf (b := .string) rfl rfl).2
  refine ⟨?unread, ?unbuilt, ?rejected, ?assembled⟩
  case unread =>
    refine (build_order _).1 ("late", tornDefinitions) _
      ⟨[("early", definitionsOf "uuid")], [], rfl, ?_, refused_tornDefinitions "late"⟩
    intro earlier member
    obtain rfl := List.mem_singleton.mp member
    exact ⟨_, declares_definitionsOf "uuid"⟩
  case unbuilt =>
    exact ((build_order _).2 [("early", textOf "uuid")]
      (.cons ⟨rfl, declares_definitionsOf "uuid"⟩ .nil)).1 ("early", textOf "uuid") _
      ⟨[], [], rfl, by simp, unbuilt_textOf rfl⟩
  case rejected =>
    refine (((build_order _).2 _ declared).2 (builds _)).1 ("odd", textOf "uuid") _
      ⟨[("note", textOf "symbol")], [], rfl, ?_,
        .unbuilt (declares_definitionsOf "uuid").2 (unbuilt_textOf rfl)⟩
    intro earlier member
    obtain rfl := List.mem_singleton.mp member
    exact symbol _
  case assembled =>
    have coded : ∀ call ∈ [("mail", textOf "symbol"), ("note", textOf "symbol"),
        ("mail", textOf "date")], call.2.Registrable (desk notes [("mail", textOf "symbol"),
          ("note", textOf "symbol"), ("mail", textOf "date")]).filterTable := by
      simp only [List.forall_mem_cons, List.not_mem_nil, false_implies, implies_true, and_true]
      exact ⟨symbol _, symbol _, date _⟩
    obtain ⟨engine, built, assembled⟩ := (((build_order (desk notes [("mail", textOf "symbol"),
      ("note", textOf "symbol"), ("mail", textOf "date")])).2 _ declared).2 (builds _)).2 coded
    refine ⟨engine, built, assembled.names.trans ?_, assembled.schema "mail",
      assembled.schema "note", ?_⟩
    · decide
    · rw [assembled.filters]
      rfl

end EngineParts

end ArgCheck
