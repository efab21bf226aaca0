import ArgCheck.Proofs.Definition.Writing

set_option autoImplicit false

/-!
# The grammar of definitions

Which definitions declare an argument is said by `Definition.Proper`: those whose types are types, where
an item type may be a whole definition again, down to any depth. The options of the argument then say at
every level what is written there (`Definition.Mirrors`), and all other definitions fail with an error
about a type (`Definition.toArgument_grammar`).
-/

namespace ArgCheck

namespace DeclaredType

/-- JSON that gives a type: a tag, or a class as the only member of an object. -/
inductive Denotes : Json → DeclaredType → Prop
  | tag (name : String) : Denotes (.string name) (.tag name)
  | cls (name : String) :
      Denotes (.object [("class", .string name)]) (.id (.entity (.root name)))

end DeclaredType

namespace Json

theorem induction {motive : Json → Prop}
    (step : ∀ json, (∀ given field inner, json = .object given →
      Json.member? field given = some inner → motive inner) → motive json) (json : Json) :
    motive json :=
  step json fun _ _ inner _ _ => induction step inner
termination_by sizeOf json
decreasing_by
  subst_vars
  have := Json.sizeOf_member ‹_›
  simp only [Json.object.sizeOf_spec]
  omega

end Json

namespace Definition

open DeclaredType (Denotes)

/-- What a member of an object that holds a definition may be. -/
structure Admissible (member : String × Json) : Prop where
  known : member.1 ∈ fields
  flag : member.1 = "optional" → ∃ b, member.2 = .bool b
  text : member.1 = "description" ∨ member.1 = "class" →
    member.2 = .null ∨ ∃ s, member.2 = .string s

/-- The object holds the definition; a null is as good as no member. -/
structure Holds (given : List (String × Json)) (definition : Definition) : Prop where
  declared : Entries.lookup "type" given = some definition.declared
  optional : definition.optional = true ↔ Entries.lookup "optional" given = some (.bool true)
  default : ∀ json, definition.default = some json ↔
    Entries.lookup "default" given = some json ∧ json ≠ .null
  description : ∀ s, definition.description = some s ↔
    Entries.lookup "description" given = some (.string s)
  element : ∀ json, definition.element = some json ↔
    Entries.lookup "element_type" given = some json ∧ json ≠ .null
  value : ∀ json, definition.value = some json ↔
    Entries.lookup "value_type" given = some json ∧ json ≠ .null
  cls : ∀ s, definition.cls = some s ↔ Entries.lookup "class" given = some (.string s)

mutual

inductive Proper : Definition → Prop
  | intro {definition : Definition} {declared : DeclaredType}
      (denotes : Denotes definition.declared declared)
      (element : ∀ json, definition.element = some json → ItemType json)
      (value : ∀ json, definition.value = some json → ItemType json) : Proper definition

/-- In the place of an item type there may be a whole definition. -/
inductive ItemType : Json → Prop
  | type {json : Json} {declared : DeclaredType} (denotes : Denotes json declared) : ItemType json
  | definition {given : List (String × Json)} {definition : Definition}
      (held : Holds given definition) (admissible : ∀ member ∈ given, Admissible member)
      (proper : Proper definition) : ItemType (.object given)

end

mutual

inductive Mirrors : Definition → Options → Prop
  | intro {definition : Definition} {options : Options}
      (declared : Denotes definition.declared options.declared)
      (optional : options.optional = definition.optional)
      (default : options.default = definition.default.map Value.ofJson)
      (description : options.description = definition.description)
      (element : Option.Rel ItemMirrors definition.element options.element)
      (value : Option.Rel ItemMirrors definition.value options.value)
      (cls : options.cls = definition.cls.map .name) : Mirrors definition options

inductive ItemMirrors : Json → Options → Prop
  | type {json : Json} {declared : DeclaredType} (denotes : Denotes json declared) :
      ItemMirrors json (.ofType declared)
  | definition {given : List (String × Json)} {definition : Definition} {options : Options}
      (held : Holds given definition) (mirrors : Mirrors definition options) :
      ItemMirrors (.object given) options

end

/-- A result just where something is accepted, and errors about types elsewhere. -/
inductive Outcome {α : Type} (accepted : Prop) (meant : α → Prop) : Except ArgumentError α → Prop
  | ok {a : α} (holds : accepted) (means : meant a) : Outcome accepted meant (.ok a)
  | error {error : ArgumentError} (refused : ¬ accepted) (kind : error.kind = .invalidFilterType) :
      Outcome accepted meant (.error error)

namespace Outcome

variable {α β : Type} {accepted further : Prop} {meant : α → Prop} {meantNext : β → Prop}
  {result : Except ArgumentError α}

theorem congr {other : Prop} {also : α → Prop} (outcome : Outcome accepted meant result)
    (same : accepted ↔ other) (means : ∀ a, meant a → also a) : Outcome other also result := by
  cases outcome with
  | ok holds meaning => exact .ok (same.mp holds) (means _ meaning)
  | error refused kind => exact .error (mt same.mpr refused) kind

theorem map {f : α → β} (outcome : Outcome accepted meant result)
    (means : ∀ a, meant a → meantNext (f a)) : Outcome accepted meantNext (result.map f) := by
  cases outcome with
  | ok holds meaning => exact .ok holds (means _ meaning)
  | error refused kind => exact .error refused kind

theorem bind {f : α → Except ArgumentError β} (outcome : Outcome accepted meant result)
    (next : ∀ a, meant a → Outcome further meantNext (f a)) :
    Outcome (accepted ∧ further) meantNext (result.bind f) := by
  cases outcome with
  | @ok a holds means =>
    have following := next a means
    change Outcome _ _ (f a)
    generalize f a = result at following ⊢
    cases following with
    | ok also meaning => exact .ok ⟨holds, also⟩ meaning
    | error refused kind => exact .error (fun both => refused both.2) kind
  | error refused kind => exact .error (fun both => refused both.1) kind

end Outcome

theorem outcome_ofJson (json : Json) :
    Outcome (∃ declared, Denotes json declared) (Denotes json) (DeclaredType.ofJson json) := by
  unfold DeclaredType.ofJson
  split
  · exact .ok ⟨_, .tag _⟩ (.tag _)
  · exact .ok ⟨_, .cls _⟩ (.cls _)
  · rename_i untagged classless
    refine .error ?_ rfl
    rintro ⟨declared, denotes⟩
    cases denotes with
    | tag name => exact untagged name rfl
    | cls name => exact classless name rfl

theorem outcome_nestedOptions? {content : Option Json}
    (items : ∀ json, content = some json →
      Outcome (ItemType json) (ItemMirrors json) (nestedOptions json)) :
    Outcome (∀ json, content = some json → ItemType json) (Option.Rel ItemMirrors content)
      (nestedOptions? content) := by
  cases content with
  | none => exact .ok (by simp) .none
  | some json =>
    have outcome := (items json rfl).map fun _ => Option.Rel.some
    exact outcome.congr (by simp) fun _ => id

theorem outcome_toOptions {definition : Definition}
    (items : ∀ json, definition.element = some json ∨ definition.value = some json →
      Outcome (ItemType json) (ItemMirrors json) (nestedOptions json)) :
    Outcome (Proper definition) (Mirrors definition) definition.toOptions := by
  have element := outcome_nestedOptions? fun json found => items json (.inl found)
  have value := outcome_nestedOptions? fun json found => items json (.inr found)
  have outcome : Outcome _ (Mirrors definition) definition.toOptions :=
    (outcome_ofJson definition.declared).bind fun declared denotes =>
      element.bind fun inner mirrored =>
        (value.map (f := definition.assemble declared inner) fun entry mirroredEntry =>
          .intro denotes rfl rfl rfl mirrored mirroredEntry rfl)
  refine outcome.congr ⟨?_, ?_⟩ fun _ => id
  · rintro ⟨⟨declared, denotes⟩, element, value⟩
    exact .intro denotes element value
  · rintro ⟨denotes, element, value⟩
    exact ⟨⟨_, denotes⟩, element, value⟩

theorem isFlag_iff (json : Json) : isFlag json = true ↔ ∃ b, json = .bool b := by
  cases json <;> simp [isFlag]

theorem isTextOrNull_iff (json : Json) :
    isTextOrNull json = true ↔ json = .null ∨ ∃ s, json = .string s := by
  cases json <;> simp [isTextOrNull]

theorem fieldFault?_eq_none_iff (member : String × Json) :
    fieldFault? member = none ↔ Admissible member := by
  obtain ⟨field, json⟩ := member
  have passes : ∀ (test : Bool) (fault : Fault),
      (if test then none else some fault) = none ↔ test = true := by simp
  unfold fieldFault?
  by_cases known : field ∈ fields
  · rw [if_neg (by simpa using known)]
    by_cases flag : field = "optional"
    · rw [if_pos flag, passes, isFlag_iff]
      refine ⟨fun holds => ⟨known, fun _ => holds, ?_⟩, fun admissible => admissible.flag flag⟩
      simp [flag]
    · rw [if_neg flag]
      by_cases text : field = "description" ∨ field = "class"
      · rw [if_pos text, passes, isTextOrNull_iff]
        exact ⟨fun holds => ⟨known, fun same => absurd same flag, fun _ => holds⟩,
          fun admissible => admissible.text text⟩
      · rw [if_neg text]
        exact iff_of_true rfl ⟨known, fun same => absurd same flag, fun same => absurd same text⟩
  · rw [if_pos (by simpa using known)]
    exact iff_of_false (by simp) fun admissible => known admissible.known

theorem holds_ofMembers {given : List (String × Json)} {declared : Json}
    (typed : Entries.lookup "type" given = some declared) :
    Holds given (ofMembers declared given) := by
  have present : ∀ field json, Json.member? field given = some json ↔
      Entries.lookup field given = some json ∧ json ≠ .null := by
    intro field json
    rw [Json.member?, Option.filter_eq_some_iff]
    cases json <;> simp [Json.isNull]
  have text : ∀ field s, (Json.member? field given).bind Json.asString? = some s ↔
      Entries.lookup field given = some (.string s) := by
    intro field s
    rw [Option.bind_eq_some_iff]
    constructor
    · rintro ⟨json, found, read⟩
      cases json <;> simp [Json.asString?] at read
      rw [← read]
      exact ((present _ _).mp found).1
    · intro found
      exact ⟨_, (present _ _).mpr ⟨found, by simp⟩, rfl⟩
  refine ⟨typed, ?_, present _, text _, present _, present _, text _⟩
  simp only [ofMembers]
  split
  · rename_i b found
    simp [found]
  · rename_i other
    simp only [Bool.false_eq_true, false_iff]
    exact other true

theorem Holds.unique {given : List (String × Json)} {definition other : Definition}
    (first : Holds given definition) (second : Holds given other) : definition = other := by
  have declared := first.declared.symm.trans second.declared
  have optional := Bool.eq_iff_iff.mpr (first.optional.trans second.optional.symm)
  have default := Option.ext fun json => (first.default json).trans (second.default json).symm
  have description := Option.ext fun s => (first.description s).trans (second.description s).symm
  have element := Option.ext fun json => (first.element json).trans (second.element json).symm
  have value := Option.ext fun json => (first.value json).trans (second.value json).symm
  have cls := Option.ext fun s => (first.cls s).trans (second.cls s).symm
  cases definition
  cases other
  simp_all

theorem itemType_object_iff {given : List (String × Json)} {declared : Json}
    (typed : Entries.lookup "type" given = some declared) :
    ItemType (.object given) ↔
      fault? given = none ∧ Proper (ofMembers declared given) := by
  rw [fault?_eq_none_iff]
  simp only [fieldFault?_eq_none_iff]
  constructor
  · intro item
    cases item with
    | type denotes =>
      cases denotes with
      | cls name => cases typed
    | @definition _ definition held admissible proper =>
      have same : declared = definition.declared := by
        have stated := held.declared
        rw [typed] at stated
        exact Option.some.inj stated
      refine ⟨admissible, ?_⟩
      rw [same, ← held.unique (holds_ofMembers held.declared)]
      exact proper
  · rintro ⟨admissible, proper⟩
    exact .definition (holds_ofMembers typed) admissible proper

/-- Outside of objects with a type of their own only types are item types. -/
theorem itemType_iff {json : Json}
    (untyped : ∀ given, json = .object given → Entries.lookup "type" given = none) :
    ItemType json ↔ ∃ declared, Denotes json declared := by
  constructor
  · intro item
    cases item with
    | type denotes => exact ⟨_, denotes⟩
    | definition held _ _ =>
      have stated := held.declared
      rw [untyped _ rfl] at stated
      cases stated
  · rintro ⟨declared, denotes⟩
    exact .type denotes

theorem outcome_nestedOptions (json : Json) :
    Outcome (ItemType json) (ItemMirrors json) (nestedOptions json) := by
  induction json using Json.induction with
  | step json ih =>
    -- The reader looks for a type first, and only then for faults in the other members.
    by_cases object : ∃ given declared,
        json = .object given ∧ Entries.lookup "type" given = some declared
    · obtain ⟨given, declared, rfl, typed⟩ := object
      have accepted := itemType_object_iff typed
      cases faulty : fault? given with
      | some fault =>
        rw [nestedOptions_faulty typed faulty]
        refine .error ?_ rfl
        rw [accepted, faulty]
        simp
      | none =>
        rw [nestedOptions_object typed faulty]
        have outcome : Outcome (Proper (ofMembers declared given)) _ _ := outcome_toOptions (by
          rintro item (found | found)
          · exact ih given _ item rfl found
          · exact ih given _ item rfl found)
        refine outcome.congr ?_ fun options => .definition (holds_ofMembers typed)
        rw [accepted]
        simp [faulty]
    · have untyped : ∀ given, json = .object given → Entries.lookup "type" given = none := by
        rintro given rfl
        cases found : Entries.lookup "type" given with
        | none => rfl
        | some declared => exact absurd ⟨given, declared, rfl, found⟩ object
      rw [nestedOptions_type untyped]
      have outcome := (outcome_ofJson json).map fun _ => ItemMirrors.type
      exact outcome.congr (itemType_iff untyped).symm fun _ => id

/-- The item types have to be types even where the definition's own type has no items. -/
theorem toArgument_grammar (definition : Definition) :
    ((∃ argument, definition.toArgument = .ok argument) ↔ Proper definition) ∧
    (∀ argument, definition.toArgument = .ok argument →
      Mirrors definition argument.options ∧ argument.coercer = none) ∧
    ∀ error, definition.toArgument = .error error → error.kind = .invalidFilterType := by
  have outcome : Outcome (Proper definition) (Mirrors definition) definition.toOptions :=
    outcome_toOptions fun json _ => outcome_nestedOptions json
  rw [toArgument]
  generalize definition.toOptions = result at outcome ⊢
  cases outcome with
  | ok holds means =>
    refine ⟨iff_of_true ⟨_, rfl⟩ holds, ?_, ?_⟩
    · rintro argument ⟨⟩
      exact ⟨means, rfl⟩
    · rintro error ⟨⟩
  | error refused kind =>
    refine ⟨iff_of_false ?_ refused, ?_, ?_⟩
    · rintro ⟨argument, ⟨⟩⟩
    · rintro argument ⟨⟩
    · rintro error ⟨⟩
      exact kind

def listOf (item : Json) : Definition where
  declared := .string "array"
  element := some item

theorem toArgument_grammar_listOf :
    let item := Json.object [("class", .null), ("type", .string "hash"),
      ("value_type", .object [("class", .string "User")])]
    let labelled := Json.object [("class", .string "User"), ("label", .null)]
    (∃ argument, (listOf item).toArgument = .ok argument ∧
      Mirrors (listOf item) argument.options) ∧
    ∃ error, (listOf labelled).toArgument = .error error ∧ error.kind = .invalidFilterType := by
  have user : ItemType (.object [("class", .string "User")]) := .type (.cls "User")
  have untyped : ¬ ItemType (.object [("class", .string "User"), ("label", .null)]) := by
    rw [itemType_iff (by rintro given ⟨⟩; rfl)]
    rintro ⟨declared, ⟨⟩⟩
  intro item labelled
  have accepted : Proper (listOf item) := by
    refine .intro (.tag "array") ?_ (by rintro json ⟨⟩)
    rintro json ⟨⟩
    refine (itemType_object_iff rfl).mpr ⟨rfl, .intro (.tag "hash") (by rintro json ⟨⟩) ?_⟩
    rintro json ⟨⟩
    exact user
  have refused : ¬ Proper (listOf labelled) := by
    rintro ⟨-, element, -⟩
    exact untyped (element labelled rfl)
  constructor
  · obtain ⟨proper, mirrors, -⟩ := toArgument_grammar (listOf item)
    obtain ⟨argument, declares⟩ := proper.mpr accepted
    exact ⟨argument, declares, (mirrors argument declares).1⟩
  · obtain ⟨proper, -, kind⟩ := toArgument_grammar (listOf labelled)
    cases fails : (listOf labelled).toArgument with
    | ok argument => exact absurd (proper.mp ⟨argument, fails⟩) refused
    | error error => exact ⟨error, rfl, kind error fails⟩

end Definition

end ArgCheck
