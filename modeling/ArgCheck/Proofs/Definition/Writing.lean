import ArgCheck.Definition.Options
import ArgCheck.Proofs.Filter.Building
import ArgCheck.Proofs.Json.Native

set_option autoImplicit false

/-!
# What is left of written options

Writing options as a definition loses some of what they say: identifiers of builtin types become
tags, classes keep only their names, and a default that JSON writes as null is gone below the top.
`Options.asWritten` are the options that are left, and reading finds just these
(`nestedOptions_nestedJson`). At the top nothing happens to a default of JSON
(`toOptions_ofOptions`).
-/

namespace ArgCheck

namespace DeclaredType

def asWritten : DeclaredType → DeclaredType
  | .tag name => .tag name
  | .id (.builtin b) => .tag b.tag
  | .id (.entity c) => .id (.entity (.root c.name))

theorem ofJson_toJson (declared : DeclaredType) :
    ofJson declared.toJson = .ok declared.asWritten := by
  cases declared with
  | tag name => rfl
  | id t => cases t <;> rfl

theorem isNull_toJson (declared : DeclaredType) : declared.toJson.isNull = false := by
  cases declared with
  | tag name => rfl
  | id t => cases t <;> rfl

end DeclaredType

namespace Options

def asWritten : Options → Options
  | ⟨declared, optional, default, description, element, value, cls⟩ => {
      declared := declared.asWritten
      optional
      default := ((default.map Value.toJson).filter fun json => !json.isNull).map Value.ofJson
      description
      element := match element with
        | none => none
        | some inner => some inner.asWritten
      value := match value with
        | none => none
        | some inner => some inner.asWritten
      cls := cls.map fun ref => .name ref.className }

theorem asWritten_eq (options : Options) : options.asWritten = {
    declared := options.declared.asWritten
    optional := options.optional
    default := ((options.default.map Value.toJson).filter fun json => !json.isNull).map Value.ofJson
    description := options.description
    element := options.element.map asWritten
    value := options.value.map asWritten
    cls := options.cls.map fun ref => .name ref.className } := by
  obtain ⟨declared, optional, default, description, element, value, cls⟩ := options
  cases element <;> cases value <;> rw [asWritten] <;> rfl

theorem isBare_iff (options : Options) :
    options.isBare = true ↔ options = ofType options.declared := by
  obtain ⟨declared, optional, default, description, element, value, cls⟩ := options
  simp [isBare, ofType, and_assoc]

end Options

namespace Entries

variable {κ α : Type} [DecidableEq κ]

theorem lookup_append (key : κ) (first second : Entries κ α) :
    lookup key (first ++ second) = (lookup key first).or (lookup key second) := by
  induction first with
  | nil => rfl
  | cons entry rest ih =>
    by_cases h : entry.1 = key
    · simp [lookup, h]
    · simpa [lookup, h] using ih

end Entries

namespace Definition

theorem lookup_field (key name : String) (json? : Option Json) :
    Entries.lookup key (field name json?) = if name = key then json? else none := by
  cases json? <;> simp [field, Entries.lookup]

def members (definition : Definition) : List (String × Json) :=
  field "type" (some definition.declared) ++
    field "optional" (if definition.optional then some (.bool true) else none) ++
    field "default" definition.default ++
    field "description" (definition.description.map .string) ++
    field "element_type" definition.element ++
    field "value_type" definition.value ++
    field "class" (definition.cls.map .string)

theorem toJson_eq (definition : Definition) : definition.toJson = .object definition.members := rfl

theorem keys_field_sublist (name : String) (json? : Option Json) :
    (Entries.keys (field name json?)).Sublist [name] := by
  cases json? <;> simp [field]

theorem keys_members_sublist (definition : Definition) :
    (Entries.keys definition.members).Sublist fields := by
  have split : fields = ["type"] ++ ["optional"] ++ ["default"] ++ ["description"] ++
      ["element_type"] ++ ["value_type"] ++ ["class"] := rfl
  rw [split]
  simp only [members, Entries.keys_append]
  iterate 6 refine List.Sublist.append ?_ (keys_field_sublist _ _)
  exact keys_field_sublist _ _

theorem lookup_type_members (definition : Definition) :
    Entries.lookup "type" definition.members = some definition.declared := by
  simp [members, Entries.lookup_append, lookup_field]

theorem forall_mem_field (name : String) (json? : Option Json) (p : String × Json → Prop) :
    (∀ member ∈ field name json?, p member) ↔ ∀ json, json? = some json → p (name, json) := by
  cases json? <;> simp [field]

theorem fault?_eq_none_iff (given : List (String × Json)) :
    fault? given = none ↔ ∀ member ∈ given, fieldFault? member = none := List.findSome?_eq_none_iff

theorem fault?_members (definition : Definition) : fault? definition.members = none := by
  rw [fault?_eq_none_iff]
  simp only [members, List.forall_mem_append, forall_mem_field]
  refine ⟨⟨⟨⟨⟨⟨?type, ?optional⟩, ?default⟩, ?description⟩, ?element⟩, ?value⟩, ?cls⟩
  case optional =>
    intro json written
    split at written <;> cases written
    rfl
  case description | cls =>
    intro json written
    obtain ⟨text, -, rfl⟩ := Option.map_eq_some_iff.mp written
    rfl
  all_goals
    intro json _
    rfl

/-- Only a null is not read as it was written. -/
theorem ofMembers_members (definition : Definition) :
    ofMembers definition.declared definition.members = { definition with
      default := definition.default.filter fun json => !json.isNull
      element := definition.element.filter fun json => !json.isNull
      value := definition.value.filter fun json => !json.isNull } := by
  have text : ∀ s : Option String,
      ((s.map Json.string).filter fun json => !json.isNull).bind Json.asString? = s := by
    intro s
    cases s <;> rfl
  obtain ⟨declared, optional, default, description, element, value, cls⟩ := definition
  cases optional <;>
    simp [ofMembers, members, Json.member?, Entries.lookup_append, lookup_field, text]

/-- Only an object with a type of its own is a definition. -/
theorem nestedOptions_type {json : Json}
    (h : ∀ given, json = .object given → Entries.lookup "type" given = none) :
    nestedOptions json = (DeclaredType.ofJson json).map .ofType := by
  cases json with
  | object given => simp [nestedOptions, h given rfl]
  | _ => simp [nestedOptions]

theorem nestedOptions_toJson (declared : DeclaredType) :
    nestedOptions declared.toJson = .ok (.ofType declared.asWritten) := by
  rw [nestedOptions_type, declared.ofJson_toJson]
  · rfl
  · intro given written
    cases declared with
    | tag name => cases written
    | id t =>
      cases t with
      | builtin b => cases written
      | entity c =>
        cases written
        rfl

theorem nestedOptions_faulty {declared : Json} {given : List (String × Json)} {fault : Fault}
    (typed : Entries.lookup "type" given = some declared) (faulty : fault? given = some fault) :
    nestedOptions (.object given) = .error (.invalidType fault.message) := by
  rw [nestedOptions]
  simp only [typed, faulty]

/-- Below the top a definition without faults declares what it declares at the top. -/
theorem nestedOptions_object {declared : Json} {given : List (String × Json)}
    (typed : Entries.lookup "type" given = some declared) (sound : fault? given = none) :
    nestedOptions (.object given) = (ofMembers declared given).toOptions := by
  rw [nestedOptions]
  simp only [typed, sound]
  rw [toOptions]
  simp only [ofMembers]
  congr 1
  funext declaredType
  cases Json.member? "element_type" given <;> cases Json.member? "value_type" given <;> rfl

theorem toOptions_ok_iff (definition : Definition) (options : Options) :
    definition.toOptions = .ok options ↔ ∃ declared element value,
      DeclaredType.ofJson definition.declared = .ok declared ∧
      nestedOptions? definition.element = .ok element ∧
      nestedOptions? definition.value = .ok value ∧
      definition.assemble declared element value = options := by
  simp only [toOptions, bind, Sequence.bind_ok_iff, pure, Except.pure, Except.ok.injEq]
  constructor
  · rintro ⟨declared, hd, element, he, value, hv, rfl⟩
    exact ⟨declared, element, value, hd, he, hv, rfl⟩
  · rintro ⟨declared, element, value, hd, he, hv, rfl⟩
    exact ⟨declared, hd, element, he, value, hv, rfl⟩

theorem isNull_nestedJson (options : Options) : (nestedJson options).isNull = false := by
  rw [nestedJson_eq]
  split
  · exact options.declared.isNull_toJson
  · rfl

theorem nestedOptions?_nestedJson {items : Option Options}
    (h : ∀ inner, items = some inner → nestedOptions (nestedJson inner) = .ok inner.asWritten) :
    nestedOptions? (items.map nestedJson) = .ok (items.map Options.asWritten) := by
  cases items with
  | none => rfl
  | some inner => simp [nestedOptions?, h inner rfl, Except.map]

theorem nestedOptions_nestedJson (options : Options) :
    nestedOptions (nestedJson options) = .ok options.asWritten := by
  induction options using Options.induction with
  | step options ih =>
    rw [nestedJson_eq]
    by_cases bare : options.isBare = true
    · rw [if_pos bare, nestedOptions_toJson, (Options.isBare_iff options).mp bare]
      rfl
    · have written : ∀ items : Option Options,
          (items.map nestedJson).filter (fun json => !json.isNull) = items.map nestedJson := by
        intro items
        cases items <;> simp [isNull_nestedJson]
      rw [if_neg bare, toJson_eq, nestedOptions_object (lookup_type_members _) (fault?_members _),
        ofMembers_members, toOptions_ok_iff]
      refine ⟨options.declared.asWritten, options.element.map Options.asWritten,
        options.value.map Options.asWritten, options.declared.ofJson_toJson,
        ?element, ?value, ?same⟩
      case element =>
        simp only [ofOptions, written]
        exact nestedOptions?_nestedJson (ih .array)
      case value =>
        simp only [ofOptions, written]
        exact nestedOptions?_nestedJson (ih .hash)
      case same =>
        rw [Options.asWritten_eq]
        simp [assemble, ofOptions, Function.comp_def]

/-- At the top even a null default stays. -/
theorem toOptions_ofOptions {options : Options}
    (native : ∀ value, options.default = some value → value.Native) :
    (ofOptions options).toOptions = .ok { options.asWritten with default := options.default } := by
  have default : (options.default.map Value.toJson).map Value.ofJson = options.default := by
    cases hd : options.default with
    | none => rfl
    | some value => simp [(native value hd).ofJson_toJson]
  rw [toOptions_ok_iff]
  refine ⟨options.declared.asWritten, options.element.map Options.asWritten,
    options.value.map Options.asWritten, options.declared.ofJson_toJson,
    nestedOptions?_nestedJson fun inner _ => nestedOptions_nestedJson inner,
    nestedOptions?_nestedJson fun inner _ => nestedOptions_nestedJson inner, ?_⟩
  rw [Options.asWritten_eq]
  simp [assemble, ofOptions, default, Function.comp_def]

end Definition

end ArgCheck
