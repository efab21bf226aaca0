import ArgCheck.FilterTable.Basic
import ArgCheck.Proofs.Sequence

set_option autoImplicit false

/-!
# How filters are built

A filter is built down the options of a container's items until a type without items is reached.
`build_result` says what one level does. Without custom kinds the filters that can come out for given
options are those of the relation `Built`, which the theory of filters goes by (`build_ok_iff`).
-/

namespace ArgCheck

namespace Options

def itemsOf (options : Options) : Builtin → Option Options
  | .array => options.element
  | .hash => options.value
  | _ => none

theorem sizeOf_itemsOf {options inner : Options} {b : Builtin} (h : options.itemsOf b = some inner) :
    sizeOf inner < sizeOf options := by
  obtain ⟨declared, optional, default, description, element, value, cls⟩ := options
  cases b with
  | array | hash =>
    simp only [itemsOf] at h
    subst h
    simp only [mk.sizeOf_spec, Option.some.sizeOf_spec]
    omega
  | _ => cases h

/-- What follows from the options of the items holds of all options. -/
theorem induction {motive : Options → Prop}
    (step : ∀ options, (∀ b inner, options.itemsOf b = some inner → motive inner) → motive options)
    (options : Options) : motive options :=
  step options fun _ inner _ => induction step inner
termination_by sizeOf options
decreasing_by exact sizeOf_itemsOf (by assumption)

end Options

namespace FilterKind

def isCustom : FilterKind → Bool
  | .custom _ => true
  | _ => false

end FilterKind

namespace FilterTable

variable {table : FilterTable}

/-- What holds of all kinds of a table, and of records, holds of every kind that a type resolves to. -/
theorem of_resolve {p : FilterKind → Prop} (tags : ∀ kind ∈ table.tags.values, p kind)
    (ids : ∀ kind ∈ table.ids.values, p kind) (record : p .record) {declared : DeclaredType}
    {kind : FilterKind} (h : table.resolve declared = .ok kind) : p kind := by
  cases declared with
  | tag name =>
    rw [FilterTable.resolve] at h
    cases found : table.tags.get? name with
    | none => simp [found] at h
    | some known =>
      simp only [found, Except.ok.injEq] at h
      exact h ▸ tags known (Table.mem_values_of_get? found)
  | id t =>
    simp only [FilterTable.resolve, Except.ok.injEq] at h
    subst h
    cases found : table.ids.get? t.key with
    | none => exact record
    | some known => exact ids known (Table.mem_values_of_get? found)

theorem forall_tags_add {p : FilterKind → Prop} (tags : ∀ kind ∈ table.tags.values, p kind)
    {kind : FilterKind} (h : p kind) (tag : String) (ids : List TypeId) :
    ∀ other ∈ (table.add tag kind ids).tags.values, p other := by
  intro other member
  rcases Table.mem_values_insert member with rfl | member
  · exact h
  · exact tags other member

theorem forall_ids_add {p : FilterKind → Prop} (known : ∀ kind ∈ table.ids.values, p kind)
    {kind : FilterKind} (h : p kind) (tag : String) (ids : List TypeId) :
    ∀ other ∈ (table.add tag kind ids).ids.values, p other := by
  refine List.foldlRecOn ids (addId kind)
    (motive := fun known => ∀ other ∈ known.values, p other) known ?_
  intro known ih t _ other member
  rcases Table.mem_values_insert member with rfl | member
  · exact h
  · exact ih other member

/-- Only builtin types and records are in the table. -/
structure CustomFree (table : FilterTable) : Prop where
  tags : ∀ kind ∈ table.tags.values, kind.isCustom = false
  ids : ∀ kind ∈ table.ids.values, kind.isCustom = false

theorem CustomFree.resolve (plain : table.CustomFree) {declared : DeclaredType} {kind : FilterKind}
    (h : table.resolve declared = .ok kind) : kind.isCustom = false :=
  of_resolve plain.tags plain.ids rfl h

theorem customFree_empty : empty.CustomFree := by
  constructor
  · intro kind member
    cases member
  · intro kind member
    cases member

theorem CustomFree.add (plain : table.CustomFree) {kind : FilterKind} (h : kind.isCustom = false)
    (tag : String) (ids : List TypeId) : (table.add tag kind ids).CustomFree :=
  ⟨forall_tags_add plain.tags h tag ids, forall_ids_add plain.ids h tag ids⟩

theorem CustomFree.withStore (plain : table.CustomFree) (store : EntityStore) :
    (table.withStore store).CustomFree := ⟨plain.tags, plain.ids⟩

theorem customFree_standard : standard.CustomFree := by
  refine CustomFree.add ?_ rfl "record" []
  exact List.foldlRecOn Builtin.all addBuiltin customFree_empty
    fun known plain b _ => plain.add rfl b.tag [.builtin b]

theorem standard_resolve_tag (b : Builtin) : standard.resolve (.tag b.tag) = .ok (.builtin b) := by
  cases b <;> rfl

theorem standard_resolve_id (b : Builtin) :
    standard.resolve (.id (.builtin b)) = .ok (.builtin b) := by
  cases b <;> rfl

/-- A store has no part in what a type resolves to. -/
theorem resolve_attach (table : FilterTable) (store : Option EntityStore)
    (declared : DeclaredType) :
    (table.attach store).resolve declared = table.resolve declared := by
  cases store <;> rfl

/-- To be nested deeper is to have all the deeper factories for what is beyond. -/
theorem makeNested_add (table : FilterTable)
    (beyond : FilterFactory → FilterBase → Traced ArgumentError Filter) (nesting deeper : Nat) :
    table.makeNested beyond (nesting + deeper) =
      table.makeNested (table.makeNested beyond deeper) nesting := by
  induction nesting with
  | zero => rw [Nat.zero_add, makeNested]
  | succ nesting ih => rw [Nat.succ_add, makeNested, makeNested, ih]

/-- What is built at some depth without a part of what is beyond is built at every greater depth. -/
theorem build_deeper {nesting : Nat} {name : String} {options : Options}
    {outcome : Traced ArgumentError Filter}
    (settled : ∀ beyond, table.buildWith (table.makeNested beyond nesting) options name = outcome)
    (deep : nesting ≤ table.depth.nesting) : table.build name options = outcome := by
  obtain ⟨deeper, total⟩ := Nat.exists_eq_add_of_le deep
  rw [build, make, total, makeNested_add]
  exact settled _

def assemble (table : FilterTable) (name : String) (options : Options)
    (items : Options → Except ArgumentError Filter) : FilterKind → Except ArgumentError Filter
  | .builtin b =>
    match options.itemsOf b with
    | none => .ok (.builtin b ⟨name, options⟩ none)
    | some inner => (items inner).map fun item => .builtin b ⟨name, options⟩ (some item)
  | .record => .ok (.record ⟨⟨name, options⟩, table.store⟩)
  | .custom factory => (table.make factory ⟨name, options⟩).result

theorem build_result (table : FilterTable) (name : String) (options : Options) :
    (table.build name options).result = (table.resolve options.declared).bind
      (table.assemble name options fun inner => (table.build (name ++ "[]") inner).result) := by
  obtain ⟨declared, optional, default, description, element, value, cls⟩ := options
  simp only [build]
  rw [buildWith]
  cases table.resolve declared with
  | error error => rfl
  | ok kind =>
    cases kind with
    | builtin b =>
      cases b with
      | array =>
        cases element <;>
          simp [assemble, Options.itemsOf, FilterBase.childName, Except.bind, Except.map]
      | hash =>
        cases value <;>
          simp [assemble, Options.itemsOf, FilterBase.childName, Except.bind, Except.map]
      | _ => rfl
    | record => rfl
    | custom factory => rfl

inductive Built (table : FilterTable) : String → Options → Filter → Prop
  | plain {name : String} {options : Options} {b : Builtin}
      (kind : table.resolve options.declared = .ok (.builtin b))
      (bare : options.itemsOf b = none) :
      Built table name options (.builtin b ⟨name, options⟩ none)
  | array {name : String} {options inner : Options} {item : Filter}
      (kind : table.resolve options.declared = .ok (.builtin .array))
      (items : options.element = some inner) (below : Built table (name ++ "[]") inner item) :
      Built table name options (.builtin .array ⟨name, options⟩ (some item))
  | hash {name : String} {options inner : Options} {item : Filter}
      (kind : table.resolve options.declared = .ok (.builtin .hash))
      (items : options.value = some inner) (below : Built table (name ++ "[]") inner item) :
      Built table name options (.builtin .hash ⟨name, options⟩ (some item))
  | record {name : String} {options : Options}
      (kind : table.resolve options.declared = .ok .record) :
      Built table name options (.record ⟨⟨name, options⟩, table.store⟩)

theorem Built.build_result {name : String} {options : Options} {filter : Filter}
    (built : Built table name options filter) :
    (table.build name options).result = .ok filter := by
  induction built with
  | plain kind bare =>
    rw [FilterTable.build_result, kind]
    simp [Except.bind, assemble, bare]
  | array kind items below ih =>
    rw [FilterTable.build_result, kind]
    simp [Except.bind, Except.map, assemble, Options.itemsOf, items, ih]
  | hash kind items below ih =>
    rw [FilterTable.build_result, kind]
    simp [Except.bind, Except.map, assemble, Options.itemsOf, items, ih]
  | record kind =>
    rw [FilterTable.build_result, kind]
    rfl

theorem CustomFree.built (plain : table.CustomFree) {options : Options} {name : String}
    {filter : Filter} (h : (table.build name options).result = .ok filter) :
    Built table name options filter := by
  induction options using Options.induction generalizing name filter with
  | step options ih =>
    rw [build_result, Sequence.bind_ok_iff] at h
    obtain ⟨kind, hk, h⟩ := h
    cases kind with
    | builtin b =>
      cases hi : options.itemsOf b with
      | none =>
        simp only [assemble, hi, Except.ok.injEq] at h
        subst h
        exact .plain hk hi
      | some inner =>
        simp only [assemble, hi, Sequence.map_ok_iff] at h
        obtain ⟨item, hb, rfl⟩ := h
        have below := ih b inner hi hb
        cases b with
        | array => exact .array hk hi below
        | hash => exact .hash hk hi below
        | _ => cases hi
    | record =>
      simp only [assemble, Except.ok.injEq] at h
      subst h
      exact .record hk
    | custom factory => cases plain.resolve hk

theorem CustomFree.build_ok_iff (plain : table.CustomFree) (name : String) (options : Options)
    (filter : Filter) :
    (table.build name options).result = .ok filter ↔ Built table name options filter :=
  ⟨plain.built, Built.build_result⟩

/-- Without custom kinds nothing but an unknown tag keeps a filter from being built. -/
theorem CustomFree.build_error_kind (plain : table.CustomFree) {options : Options} {name : String}
    {error : ArgumentError} (h : (table.build name options).result = .error error) :
    error.kind = .unknownFilterType := by
  induction options using Options.induction generalizing name with
  | step options ih =>
    rw [build_result, Sequence.bind_error_iff] at h
    rcases h with unresolved | ⟨kind, hk, h⟩
    · cases hd : options.declared with
      | tag tag =>
        simp only [hd, FilterTable.resolve] at unresolved
        split at unresolved
        · cases unresolved
        · cases unresolved
          rfl
      | id t =>
        rw [hd, FilterTable.resolve] at unresolved
        cases unresolved
    · cases kind with
      | builtin b =>
        cases hi : options.itemsOf b with
        | none => simp [assemble, hi] at h
        | some inner =>
          simp only [assemble, hi, Sequence.map_error_iff] at h
          exact ih b inner hi h
      | record => simp [assemble] at h
      | custom factory => cases plain.resolve hk

end FilterTable

end ArgCheck
