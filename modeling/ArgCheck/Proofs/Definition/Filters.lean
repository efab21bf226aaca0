import ArgCheck.Proofs.Definition.Writing
import ArgCheck.Proofs.Filter.Processing

set_option autoImplicit false

/-!
# Filters of written options

What writing loses does not matter to filters: over a store, the filters that the standard table
builds for options and for what is left of them once they are written process every value alike
(`build_mirrors`). A class that has lost its ancestors, or become a name, is looked up by name
anyway.
-/

namespace ArgCheck

namespace DeclaredType

theorem typeId?_asWritten (declared : DeclaredType) :
    declared.asWritten.typeId?.map TypeId.key = declared.typeId?.map TypeId.key := by
  cases declared with
  | tag name => rfl
  | id t =>
    cases t with
    | builtin b => simp [asWritten, typeId?, Builtin.ofTag?_tag, TypeId.key]
    | entity c => rfl

theorem entityName_asWritten (declared : DeclaredType) :
    (declared.asWritten.typeId?.bind TypeId.entityClass?).map EntityClass.name =
      (declared.typeId?.bind TypeId.entityClass?).map EntityClass.name := by
  cases declared with
  | tag name => rfl
  | id t =>
    cases t with
    | builtin b => simp [asWritten, typeId?, Builtin.ofTag?_tag, TypeId.entityClass?]
    | entity c => rfl

end DeclaredType

namespace Options

/-- The options that are left of others when these are written, but for what filters overlook. -/
structure Mirrors (options original : Options) : Prop where
  declared : options.declared = original.declared.asWritten
  className : options.cls.map ClassRef.className = original.cls.map ClassRef.className
  items : ∀ b, options.itemsOf b = (original.itemsOf b).map asWritten

theorem asWritten_mirrors (options : Options) : options.asWritten.Mirrors options := by
  rw [asWritten_eq]
  refine ⟨rfl, ?_, ?_⟩
  · rw [Option.map_map]
    rfl
  · intro b
    cases b <;> rfl

end Options

namespace RecordFilter

variable {filter other : RecordFilter} {store : EntityStore}

def className? (filter : RecordFilter) : Option String := filter.classRef?.map ClassRef.className

/-- With a store the class comes from there, whatever the declaration holds. -/
theorem recordClass_stored (stored : filter.store = some store) : filter.recordClass =
    match filter.className? with
    | some name =>
      match store.resolveClass name with
      | some c => .ok c
      | none => .error (.unresolvableClass filter.base.name name)
    | none =>
      .error (.unresolvableClass filter.base.name filter.base.options.declared.render) := by
  unfold recordClass className?
  rw [stored]
  cases filter.classRef? <;> rfl

theorem process_congr (resolved : filter.recordClass = other.recordClass)
    (name : filter.base.name = other.base.name) (stored : filter.store = other.store)
    (value : Value) : filter.process value = other.process value := by
  simp only [process, castIn, find, lookupEvent, answer, name, stored, resolved]

end RecordFilter

namespace FilterTable

variable {store : EntityStore} {name : String} {options original : Options}

theorem standard_resolve_asWritten (declared : DeclaredType) :
    standard.resolve declared.asWritten = standard.resolve declared := by
  cases declared with
  | tag name => rfl
  | id t =>
    cases t with
    | builtin b => rw [DeclaredType.asWritten, standard_resolve_tag, standard_resolve_id]
    | entity c => rfl

theorem render_asWritten {declared : DeclaredType}
    (kind : standard.resolve declared = .ok .record) :
    declared.asWritten.render = declared.render := by
  cases declared with
  | tag name => rfl
  | id t =>
    cases t with
    | builtin b =>
      rw [standard_resolve_id] at kind
      cases kind
    | entity c => rfl

theorem recordClass_mirrors (mirrors : options.Mirrors original)
    (kind : standard.resolve original.declared = .ok .record) :
    (RecordFilter.mk ⟨name, options⟩ (some store)).recordClass =
      (RecordFilter.mk ⟨name, original⟩ (some store)).recordClass := by
  have named : (RecordFilter.mk ⟨name, options⟩ (some store)).className? =
      (RecordFilter.mk ⟨name, original⟩ (some store)).className? := by
    simp only [RecordFilter.className?, RecordFilter.classRef?, Option.map_or, Option.map_map,
      mirrors.className, mirrors.declared]
    exact congrArg _ original.declared.entityName_asWritten
  rw [RecordFilter.recordClass_stored rfl, RecordFilter.recordClass_stored rfl, named,
    mirrors.declared, render_asWritten kind]

/-- The two filters make the same of every value. -/
def SameProcess (filter other : Filter) : Prop :=
  ∀ value, (filter.process value).result = (other.process value).result

theorem sameProcess_container {b : Builtin} {item other : Filter} (same : SameProcess item other)
    (container : b = .array ∨ b = .hash) :
    SameProcess (.builtin b ⟨name, options⟩ (some item))
      (.builtin b ⟨name, original⟩ (some other)) := by
  intro value
  rcases container with rfl | rfl
  · rw [Filter.process_array, Filter.process_array]
    simp only [same _]
  · rw [Filter.process_hash, Filter.process_hash]
    simp only [same _]

theorem sameProcess_record (mirrors : options.Mirrors original)
    (kind : standard.resolve original.declared = .ok .record) :
    SameProcess (.record ⟨⟨name, options⟩, some store⟩)
      (.record ⟨⟨name, original⟩, some store⟩) := by
  intro value
  exact congrArg Traced.result
    (RecordFilter.process_congr (recordClass_mirrors mirrors kind) rfl rfl value)

theorem build_mirrors (mirrors : options.Mirrors original) :
    Sequence.Agree SameProcess ((standard.withStore store).build name options).result
      ((standard.withStore store).build name original).result := by
  -- `options` is general, since below the top nothing but `asWritten` is known of them
  induction original using Options.induction generalizing options name with
  | step original ih =>
    have resolved : (standard.withStore store).resolve options.declared =
        (standard.withStore store).resolve original.declared := by
      rw [mirrors.declared]
      exact standard_resolve_asWritten original.declared
    rw [build_result, build_result, resolved]
    cases found : (standard.withStore store).resolve original.declared with
    | error error => exact .error error
    | ok kind =>
      cases kind with
      | builtin b =>
        simp only [Except.bind, assemble, mirrors.items b]
        cases items : original.itemsOf b with
        | none =>
          refine .ok ?_
          intro value
          rw [Filter.process_plain, Filter.process_plain, Filter.processBuiltin_result,
            Filter.processBuiltin_result]
        | some inner =>
          refine (ih b inner items inner.asWritten_mirrors).map ?_
          intro item other same
          refine sameProcess_container same ?_
          cases b with
          | array => exact .inl rfl
          | hash => exact .inr rfl
          | _ => cases items
      | record =>
        exact .ok (sameProcess_record mirrors found)
      | custom factory => cases (customFree_standard.withStore store).resolve found

end FilterTable

end ArgCheck
