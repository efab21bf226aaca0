import ArgCheck.Proofs.Definition.Filters
import ArgCheck.Proofs.Validation.Congruence

set_option autoImplicit false

/-!
# Rendered schemas behave alike

A schema without coercions of its own whose defaults are values of JSON can be written as
definitions and read again. What is read is not the same schema, but over a store it validates every
call alike (`validate_definitions`).
-/

namespace ArgCheck

def Argument.reread (argument : Argument) : Argument where
  options := { argument.options.asWritten with default := argument.options.default }

namespace Schema

/-- No argument has a coercion of its own, and the defaults can be written as JSON. -/
structure Renderable (schema : Schema) : Prop where
  uncoerced : ∀ entry ∈ schema.entries, entry.2.coercer = none
  native : ∀ entry ∈ schema.entries, ∀ value, entry.2.options.default = some value → value.Native

theorem argumentsOfDefinitions_ofOptions {entries : List (String × Argument)}
    (native : ∀ entry ∈ entries, ∀ value, entry.2.options.default = some value → value.Native) :
    argumentsOfDefinitions
        (Entries.mapValues (fun argument => Definition.ofOptions argument.options) entries) =
      .ok (Entries.mapValues Argument.reread entries) := by
  induction entries with
  | nil => rfl
  | cons entry rest ih =>
    have here : (Definition.ofOptions entry.2.options).toArgument = .ok entry.2.reread := by
      rw [Definition.toArgument, Definition.toOptions_ofOptions (native entry (by simp))]
      rfl
    have below := ih fun other member => native other (by simp [member])
    rw [Entries.mapValues_cons, argumentsOfDefinitions, here, below]
    rfl

theorem ofDefinitions_definitions {schema : Schema} (renderable : schema.Renderable) :
    ofDefinitions schema.definitions = .ok ⟨schema.arguments.mapValues Argument.reread⟩ := by
  have read := argumentsOfDefinitions_ofOptions renderable.native
  have kept : Entries.ofList (Entries.mapValues Argument.reread schema.entries) =
      Entries.mapValues Argument.reread schema.entries :=
    Entries.ofList_self (by rw [Entries.keys_mapValues]; exact schema.arguments.distinct)
  have same : Schema.ofList (Entries.mapValues Argument.reread schema.entries) =
      ⟨schema.arguments.mapValues Argument.reread⟩ := by
    simp only [ofList, Table.ofList, kept]
    rfl
  exact (congrArg (Except.map Schema.ofList) read).trans (congrArg Except.ok same)

end Schema

namespace Argument

variable {types : TypeTable} {store : EntityStore}

theorem reread_mirrors (argument : Argument) : argument.reread.options.Mirrors argument.options :=
  have ⟨declared, className, items⟩ := argument.options.asWritten_mirrors
  ⟨declared, className, items⟩

theorem reread_alike {argument : Argument} (uncoerced : argument.coercer = none) (name : String) :
    Validation.Alike types (FilterTable.standard.withStore store) (name, argument.reread)
      (name, argument) := by
  have mirrors := argument.reread_mirrors
  refine ⟨rfl, ?optional, rfl, ?slot⟩
  case optional =>
    simp only [reread, isOptional, Options.asWritten_eq]
  case slot =>
    refine (FilterTable.build_mirrors mirrors).map ?_
    intro filter other same
    refine ⟨rfl, Validation.normalize_congr rfl rfl uncoerced ?_ same⟩
    rw [declared, mirrors.declared]
    exact argument.declared.typeId?_asWritten

end Argument

namespace Validation

theorem validate_definitions (schema : Schema) (renderable : schema.Renderable) :
    ∃ reread, Schema.ofDefinitions schema.definitions = .ok reread ∧
      ∀ types store name given,
        (validate types (FilterTable.standard.withStore store) name reread given).result =
          (validate types (FilterTable.standard.withStore store) name schema given).result := by
  refine ⟨_, Schema.ofDefinitions_definitions renderable, ?_⟩
  intro types store name given
  refine validate_congr ?_ name given
  change List.Forall₂ _ (schema.entries.map _) schema.entries
  rw [List.forall₂_map_left_iff, List.forall₂_same]
  intro entry member
  exact Argument.reread_alike (renderable.uncoerced entry member) entry.1

def admin : EntityClass := ⟨"Admin", ["User"]⟩

def adminRecord : Options where
  declared := .tag "record"
  default := some .null
  cls := some (.handle admin)

def admins : Options where
  declared := .id (.builtin .array)
  default := some (.array [.int 7])
  element := some adminRecord

def crew : Schema where
  arguments := ⟨[("lead", { options := .ofType (.id (.entity admin)) }),
    ("members", { options := admins })], by decide⟩

theorem renderable_crew : crew.Renderable := by
  constructor
  · simp [crew, Schema.entries]
  · simp only [crew, Schema.entries, List.forall_mem_cons, List.not_mem_nil, false_implies,
      implies_true, and_true]
    refine ⟨?_, ?_⟩
    · intro value declared
      cases declared
    · intro value declared
      cases declared
      exact .array (by simpa using .int 7)

def grace : Value := .entity ⟨admin, .int 7, [("name", .string "Grace")]⟩

theorem validate_crew :
    (validate .empty (FilterTable.standard.withStore MemoryStore.sample.toStore) "crew" crew
        (.map [("lead", .string "7")])).result =
      .ok [("lead", grace), ("members", .array [grace])] := by
  have lead : FilterTable.Built (FilterTable.standard.withStore MemoryStore.sample.toStore) "lead"
      (.ofType (.id (.entity admin))) _ := .record rfl
  have member : FilterTable.Built (FilterTable.standard.withStore MemoryStore.sample.toStore)
      "members[]" adminRecord _ := .record rfl
  have members : FilterTable.Built (FilterTable.standard.withStore MemoryStore.sample.toStore)
      "members" admins _ := .array rfl rfl member
  rw [validate_map_result]
  simp only [crew, Schema.entries, Sequence.mapM_cons, slotOf, lead.build_result,
    members.build_result]
  rfl

theorem validate_definitions_crew :
    ∃ reread, Schema.ofDefinitions crew.definitions = .ok reread ∧
      (validate .empty (FilterTable.standard.withStore MemoryStore.sample.toStore) "crew" reread
          (.map [("lead", .string "7")])).result =
        .ok [("lead", grace), ("members", .array [grace])] := by
  obtain ⟨reread, read, alike⟩ := validate_definitions crew renderable_crew
  exact ⟨reread, read, (alike _ _ _ _).trans validate_crew⟩

end Validation

end ArgCheck
