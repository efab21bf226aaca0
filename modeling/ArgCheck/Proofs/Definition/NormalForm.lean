import ArgCheck.Proofs.Definition.Writing

set_option autoImplicit false

/-!
# Rendered definitions are a normal form

Options that come from a definition have lost already what writing loses (`Options.Written`), so
they are written and read again without a change. Hence the definition that a declared argument
renders as reads back as itself, declares the same argument, and is rendered again as the same JSON
(`rendered_rereads`).
-/

namespace ArgCheck

/-- Options as a definition declares them: types and classes as they are written, and for defaults
only values of JSON other than null. -/
inductive Options.Written : Options → Prop
  | intro {options : Options} (declared : options.declared.asWritten = options.declared)
      (default : ∀ value, options.default = some value → value.Native ∧ value.isNull = false)
      (cls : ∀ ref, options.cls = some ref → ref = .name ref.className)
      (items : ∀ b inner, options.itemsOf b = some inner → inner.Written) : Written options

theorem Options.map_self {α : Type} {f : α → α} {content : Option α}
    (h : ∀ a, content = some a → f a = a) : content.map f = content := by
  cases content with
  | none => rfl
  | some a => rw [Option.map_some, h a rfl]

theorem DeclaredType.wellFormed_toJson (declared : DeclaredType) : declared.toJson.WellFormed := by
  cases declared with
  | tag name => exact .string name
  | id t =>
    cases t with
    | builtin b => exact .string b.tag
    | entity c =>
      have named := Json.WellFormed.string c.name
      exact .object (by simp [Entries.keys]) (by simpa using named)

theorem DeclaredType.asWritten_of_ofJson {json : Json} {declared : DeclaredType}
    (h : ofJson json = .ok declared) : declared.asWritten = declared := by
  unfold ofJson at h
  split at h <;> cases h <;> rfl

namespace Definition

variable {format : TextFormat} {json : Json} {definition : Definition} {options : Options}

/-- What an optional field holds is JSON of a program, and not null, which would mean nothing. -/
def Stated (content : Option Json) : Prop :=
  ∀ json, content = some json → json.WellFormed ∧ json.isNull = false

theorem Stated.map_canonical {content : Option Json} (h : Stated content) :
    content.map Json.canonical = content :=
  Options.map_self fun json found => (h json found).1.canonical_self

theorem Stated.filter_isNull {content : Option Json} (h : Stated content) :
    (content.filter fun json => !json.isNull) = content := by
  cases content with
  | none => rfl
  | some json => simp [(h json rfl).2]

structure WellFormed (definition : Definition) : Prop where
  declared : definition.declared.WellFormed
  default : Stated definition.default
  element : Stated definition.element
  value : Stated definition.value

theorem wellFormed_members? {given : List (String × Json)} (h : json.WellFormed)
    (found : json.members? format fields = some given) :
    ∀ member ∈ given, member.2.WellFormed := by
  cases h with
  | object distinct each =>
    simp only [Json.members?, Option.ite_none_right_eq_some, Option.some.injEq] at found
    obtain ⟨-, rfl⟩ := found
    exact each
  | array each =>
    simp only [Json.members?, Option.ite_none_right_eq_some, Option.some.injEq] at found
    obtain ⟨-, rfl⟩ := found
    intro member inside
    exact each member.2 (List.of_mem_zip inside).2
  | _ => cases found

theorem read?_eq_some_iff : read? format json = some definition ↔ ∃ given declared,
    json.members? format fields = some given ∧ Entries.lookup "type" given = some declared ∧
      fault? given = none ∧ (ofMembers declared given).canonical = definition := by
  simp [read?, Option.bind_eq_some_iff]

theorem WellFormed.canonical_self (h : definition.WellFormed) :
    definition.canonical = definition := by
  rw [canonical, h.declared.canonical_self, h.default.map_canonical, h.element.map_canonical,
    h.value.map_canonical]

theorem wellFormed_ofMembers {declared : Json} {given : List (String × Json)}
    (each : ∀ member ∈ given, member.2.WellFormed)
    (typed : Entries.lookup "type" given = some declared) :
    (ofMembers declared given).WellFormed := by
  have stated : ∀ field, Stated (Json.member? field given) := by
    intro field json found
    rw [Json.member?, Option.filter_eq_some_iff] at found
    exact ⟨each _ (Entries.mem_of_lookup found.1), by simpa using found.2⟩
  exact ⟨each _ (Entries.mem_of_lookup typed), stated "default", stated "element_type",
    stated "value_type"⟩

theorem wellFormed_of_read? (h : json.WellFormed) (read : read? format json = some definition) :
    definition.WellFormed := by
  obtain ⟨given, declared, found, typed, -, rfl⟩ := read?_eq_some_iff.mp read
  have sound := wellFormed_ofMembers (wellFormed_members? h found) typed
  rwa [sound.canonical_self]

theorem members?_toJson (definition : Definition) :
    definition.toJson.members? format fields = some definition.members := by
  have known := definition.keys_members_sublist
  have distinct : Json.hasDistinctKeys definition.members = true := by
    simpa [Json.hasDistinctKeys] using known.nodup (by decide)
  have listed : (definition.members.all fun member => fields.contains member.1) = true := by
    simp only [List.all_eq_true, List.contains_iff_mem]
    intro member inside
    exact known.subset (List.mem_map_of_mem inside)
  simp only [toJson_eq, Json.members?, distinct, listed, Bool.and_self, if_true]

theorem WellFormed.read?_toJson (h : definition.WellFormed) :
    read? format definition.toJson = some definition := by
  have same : ofMembers definition.declared definition.members = definition := by
    rw [ofMembers_members, h.default.filter_isNull, h.element.filter_isNull, h.value.filter_isNull]
  refine read?_eq_some_iff.mpr ⟨definition.members, definition.declared, members?_toJson definition,
    lookup_type_members definition, fault?_members definition, ?_⟩
  rw [same, h.canonical_self]

theorem WellFormed.wellFormed_toJson (h : definition.WellFormed) :
    definition.toJson.WellFormed := by
  rw [toJson_eq]
  refine .object (definition.keys_members_sublist.nodup (by decide)) ?_
  simp only [members, List.forall_mem_append, forall_mem_field]
  refine ⟨⟨⟨⟨⟨⟨?type, ?optional⟩, ?default⟩, ?description⟩, ?element⟩, ?value⟩, ?cls⟩
  case type =>
    rintro json ⟨⟩
    exact h.declared
  case optional =>
    intro json written
    split at written <;> cases written
    exact .bool true
  case description | cls =>
    intro json written
    obtain ⟨text, -, rfl⟩ := Option.map_eq_some_iff.mp written
    exact .string text
  case default => exact fun json written => (h.default json written).1
  case element => exact fun json written => (h.element json written).1
  case value => exact fun json written => (h.value json written).1

theorem wellFormed_ofOptions
    (default : ∀ value, options.default = some value → value.Native ∧ value.isNull = false)
    (items : ∀ b inner, options.itemsOf b = some inner → (nestedJson inner).WellFormed) :
    (ofOptions options).WellFormed := by
  constructor
  case declared => exact options.declared.wellFormed_toJson
  case default =>
    intro json written
    obtain ⟨value, found, rfl⟩ := Option.map_eq_some_iff.mp written
    obtain ⟨native, present⟩ := default value found
    rw [← Value.isNull_ofJson, native.ofJson_toJson]
    exact ⟨Value.wellFormed_toJson native.wellFormed, present⟩
  case element =>
    intro json written
    obtain ⟨inner, found, rfl⟩ := Option.map_eq_some_iff.mp written
    exact ⟨items .array inner found, isNull_nestedJson inner⟩
  case value =>
    intro json written
    obtain ⟨inner, found, rfl⟩ := Option.map_eq_some_iff.mp written
    exact ⟨items .hash inner found, isNull_nestedJson inner⟩

end Definition

namespace Options.Written

variable {options : Options}

theorem wellFormed_nestedJson (h : options.Written) :
    (Definition.nestedJson options).WellFormed := by
  induction h with
  | intro declared default cls items ih =>
    rw [Definition.nestedJson_eq]
    split
    · exact DeclaredType.wellFormed_toJson _
    · exact (Definition.wellFormed_ofOptions default ih).wellFormed_toJson

theorem wellFormed_ofOptions (h : options.Written) : (Definition.ofOptions options).WellFormed := by
  obtain ⟨-, default, -, items⟩ := h
  exact Definition.wellFormed_ofOptions default fun b inner found =>
    (items b inner found).wellFormed_nestedJson

theorem asWritten_self (h : options.Written) : options.asWritten = options := by
  induction h with
  | @intro options declared default cls items ih =>
    have sameDefault : ((options.default.map Value.toJson).filter fun json => !json.isNull).map
        Value.ofJson = options.default := by
      cases hd : options.default with
      | none => rfl
      | some value =>
        obtain ⟨native, present⟩ := default value hd
        have written : value.toJson.isNull = false := by
          rw [← Value.isNull_ofJson, native.ofJson_toJson, present]
        simp [written, native.ofJson_toJson]
    have sameClass : (options.cls.map fun ref => .name ref.className) = options.cls :=
      map_self fun ref found => (cls ref found).symm
    have sameElement := map_self (ih .array)
    have sameValue := map_self (ih .hash)
    rw [Options.asWritten_eq, declared, sameDefault, sameClass]
    simp only [itemsOf] at sameElement sameValue
    rw [sameElement, sameValue]
    -- options contain options, so this record is not definitionally the record of its fields
    cases options
    rfl

theorem toOptions_ofOptions (h : options.Written) :
    (Definition.ofOptions options).toOptions = .ok options := by
  have kept := h.asWritten_self
  obtain ⟨-, default, -, -⟩ := h
  rw [Definition.toOptions_ofOptions fun value found => (default value found).1, kept]
  cases options
  rfl

theorem ofType {declared : DeclaredType} (h : declared.asWritten = declared) :
    (Options.ofType declared).Written := by
  refine .intro h ?_ ?_ ?_
  · intro value found
    cases found
  · intro ref found
    cases found
  · intro b inner found
    cases b <;> cases found

end Options.Written

namespace Definition

variable {format : TextFormat} {json : Json} {definition : Definition} {options : Options}

theorem nestedOptions?_some {content : Option Json} {items : Option Options} {inner : Options}
    (read : nestedOptions? content = .ok items) (found : items = some inner) :
    ∃ json, content = some json ∧ nestedOptions json = .ok inner := by
  subst found
  cases content with
  | none => cases read
  | some json =>
    rw [nestedOptions?, Sequence.map_ok_iff] at read
    obtain ⟨_, read, ⟨⟩⟩ := read
    exact ⟨json, rfl, read⟩

theorem written_of_type (untyped : ∀ given, json = .object given →
    Entries.lookup "type" given = none) (read : nestedOptions json = .ok options) :
    options.Written := by
  rw [nestedOptions_type untyped, Sequence.map_ok_iff] at read
  obtain ⟨declared, hd, rfl⟩ := read
  exact .ofType (DeclaredType.asWritten_of_ofJson hd)

theorem written_of_toOptions (sound : definition.WellFormed)
    (nested : ∀ json, definition.element = some json ∨ definition.value = some json →
      ∀ inner, nestedOptions json = .ok inner → inner.Written)
    (h : definition.toOptions = .ok options) : options.Written := by
  obtain ⟨declared, element, value, hd, he, hv, rfl⟩ := (toOptions_ok_iff definition options).mp h
  refine .intro ?declared ?default ?cls ?items
  case declared => exact DeclaredType.asWritten_of_ofJson hd
  case default =>
    intro value read
    obtain ⟨json, found, rfl⟩ := Option.map_eq_some_iff.mp read
    obtain ⟨wellFormed, present⟩ := sound.default json found
    exact ⟨Value.native_ofJson wellFormed, by rw [Value.isNull_ofJson, present]⟩
  case cls =>
    intro ref named
    obtain ⟨name, -, rfl⟩ := Option.map_eq_some_iff.mp named
    rfl
  case items =>
    intro b inner found
    cases b with
    | array =>
      obtain ⟨json, stated, read⟩ := nestedOptions?_some he found
      exact nested json (.inl stated) inner read
    | hash =>
      obtain ⟨json, stated, read⟩ := nestedOptions?_some hv found
      exact nested json (.inr stated) inner read
    | _ => cases found

theorem written_of_nestedOptions (h : json.WellFormed) (read : nestedOptions json = .ok options) :
    options.Written := by
  -- along the JSON: the types of the items are members of the object that declares them
  induction h generalizing options with
  | @object given distinct each ih =>
    cases typed : Entries.lookup "type" given with
    | none =>
      refine written_of_type ?_ read
      rintro _ ⟨⟩
      exact typed
    | some declared =>
      cases faulty : fault? given with
      | some fault =>
        rw [nestedOptions_faulty typed faulty] at read
        cases read
      | none =>
        rw [nestedOptions_object typed faulty] at read
        refine written_of_toOptions (wellFormed_ofMembers each typed) ?_ read
        have inside : ∀ field json, Json.member? field given = some json →
            ∀ inner, nestedOptions json = .ok inner → inner.Written := by
          intro field json stated inner below
          rw [Json.member?, Option.filter_eq_some_iff] at stated
          exact ih (field, json) (Entries.mem_of_lookup stated.1) below
        rintro json (stated | stated)
        · exact inside "element_type" json stated
        · exact inside "value_type" json stated
  | _ => exact written_of_type (by rintro _ ⟨⟩) read

theorem written_of_read? (h : json.WellFormed) (read : read? format json = some definition)
    (declares : definition.toOptions = .ok options) : options.Written := by
  have sound := wellFormed_of_read? h read
  refine written_of_toOptions sound ?_ declares
  rintro json (stated | stated) inner below
  · exact written_of_nestedOptions (sound.element json stated).1 below
  · exact written_of_nestedOptions (sound.value json stated).1 below

/-- The rendered definition in any format: it reads back, it declares the argument that it was
rendered from, and so rendering that once more changes nothing. -/
theorem rendered_rereads {argument : Argument} (h : json.WellFormed)
    (read : read? format json = some definition) (declares : definition.toArgument = .ok argument) :
    (ofOptions argument.options).toJson.WellFormed ∧
    (∀ other, read? other (ofOptions argument.options).toJson = some (ofOptions argument.options)) ∧
    (ofOptions argument.options).toArgument = .ok argument ∧
    ((ofOptions argument.options).toArgument.map fun again => (ofOptions again.options).toJson) =
      .ok (ofOptions argument.options).toJson := by
  rw [toArgument, Sequence.map_ok_iff] at declares
  obtain ⟨options, declares, rfl⟩ := declares
  have written := written_of_read? h read declares
  have sound := written.wellFormed_ofOptions
  have again : (ofOptions options).toArgument = .ok { options } := by
    rw [toArgument, written.toOptions_ofOptions]
    rfl
  exact ⟨sound.wellFormed_toJson, fun other => sound.read?_toJson, again, by rw [again]; rfl⟩

/-- Maps of owners by name, with a class for the values of a map, a null field, and a default that
no integer holds. -/
def owners : Json := .object [("type", .string "array"), ("class", .null),
  ("default", .array [.int 0xFFFFFFFFFFFFFFFF]),
  ("element_type", .object [("value_type", .object [("class", .string "User")]),
    ("type", .string "hash"), ("default", .object [("class", .string "none")])])]

def ownersByName : Options where
  declared := .tag "hash"
  default := some (.map [("class", .string "none")])
  value := some (.ofType (.id (.entity (.root "User"))))

def ownersArgument : Argument where
  options := {
    declared := .tag "array"
    default := some (.array [.float (Binary64.ofInt 0xFFFFFFFFFFFFFFFF)])
    element := some ownersByName }

theorem wellFormed_owners : owners.WellFormed := by
  have named : ∀ name, (Json.object [("class", .string name)]).WellFormed := fun name =>
    .object (by simp [Entries.keys]) (by simpa using .string name)
  refine .object (by decide) ?_
  simp only [List.forall_mem_cons, List.not_mem_nil, false_implies, implies_true, and_true]
  refine ⟨.string "array", .null, .array ?_, .object (by decide) ?_⟩
  · simpa using .int (by decide) (by decide)
  · simpa using ⟨named "User", .string "hash", named "none"⟩

theorem nestedOptions_owners :
    nestedOptions (.object [("value_type", .object [("class", .string "User")]),
        ("type", .string "hash"), ("default", .object [("class", .string "none")])]) =
      .ok ownersByName := by
  rw [nestedOptions_object rfl rfl, toOptions_ok_iff]
  refine ⟨.tag "hash", none, some _, rfl, rfl, ?_, rfl⟩
  exact congrArg (Except.map some) (nestedOptions_toJson (.id (.entity (.root "User"))))

theorem rendered_rereads_owners :
    read? .toml (ofOptions ownersArgument.options).toJson =
        some (ofOptions ownersArgument.options) ∧
      (ofOptions ownersArgument.options).toArgument = .ok ownersArgument := by
  obtain ⟨definition, read, declares⟩ : ∃ definition, read? .json owners = some definition ∧
      definition.toArgument = .ok ownersArgument := by
    refine ⟨_, rfl, ?_⟩
    rw [toArgument, Sequence.map_ok_iff]
    refine ⟨ownersArgument.options, ?_, rfl⟩
    rw [toOptions_ok_iff]
    exact ⟨.tag "array", some ownersByName, none, rfl,
      congrArg (Except.map some) nestedOptions_owners, rfl, rfl⟩
  obtain ⟨-, reads, again, -⟩ := rendered_rereads wellFormed_owners read declares
  exact ⟨reads .toml, again⟩

end Definition

end ArgCheck
