import ArgCheck.Proofs.Filter.Processing

set_option autoImplicit false

/-!
# Canonical values of declared options

Which values are canonical is said by the options alone, by the kind that their type resolves to, and
for containers by the options of the items. Over a store that answers only with records of the class
asked for, filters turn values into null or canonical ones, and exactly these they leave alone
(`process_fixes_canonical`).
-/

namespace ArgCheck

namespace Builtin

def forms : Builtin → List String
  | .string => ["string"]
  | .integer => ["integer"]
  | .float => ["float", "integer"]
  | .decimal => ["decimal"]
  | .boolean => ["boolean"]
  | .symbol => ["symbol"]
  | .date => ["date"]
  | .dateTime => ["date_time", "timestamp"]
  | .array => ["array"]
  | .hash => ["hash"]

theorem accepts_iff (b : Builtin) (value : Value) :
    b.accepts value = true ↔ value.kind ∈ b.forms := by
  cases b <;> cases value <;> simp [accepts, forms, Value.kind]

theorem accepts_of_cast? {b : Builtin} {value canonical : Value}
    (h : b.cast? value = some canonical) : b.accepts canonical = true := by
  cases b with
  | array | hash => cases h
  | dateTime =>
    simp only [cast?, castDateTime?] at h
    split at h
    · obtain ⟨moment, _, rfl⟩ := Option.map_eq_some_iff.mp h
      cases moment <;> rfl
    · cases h
      rfl
    · cases h
  | string =>
    cases h
    rfl
  | _ =>
    obtain ⟨result, _, rfl⟩ := Option.map_eq_some_iff.mp h
    rfl

end Builtin

namespace EntityStore

/-- Records are found only under their own class or one of its ancestors. -/
def Sound (store : EntityStore) : Prop :=
  ∀ c id e, store.findById c id = .ok (some e) → e.isA c = true

end EntityStore

namespace MemoryStore

theorem toStore_sound (store : MemoryStore) : store.toStore.Sound := by
  intro c id e h
  have found : store.records.find? (fun e => e.isA c && e.id.matchesId id) = some e :=
    Except.ok.inj h
  have matching := List.find?_some found
  simp only [Bool.and_eq_true] at matching
  exact matching.1

theorem toFailingStore_sound (store : MemoryStore) (reason : String) :
    (store.toFailingStore reason).Sound := by
  intro c id e h
  cases h

end MemoryStore

namespace FilterTable

variable {table : FilterTable}

def StoreSound (table : FilterTable) : Prop := ∀ store, table.store = some store → store.Sound

/-- The class of a record argument. A store knows classes by name; without a store only a class that
is given itself will do. -/
def classOf? (table : FilterTable) (options : Options) : Option EntityClass :=
  let declared := options.declared.typeId?.bind TypeId.entityClass?
  match options.cls.or (declared.map .handle), table.store with
  | some ref, some store => store.resolveClass ref.className
  | some (.handle c), none => some c
  | _, _ => none

/-- Canonical values, by the kind of the declared type. -/
def Canonical (table : FilterTable) : Options → Value → Prop
  | ⟨declared, optional, default, description, element, value, cls⟩, v =>
    match table.resolve declared with
    | .ok (.builtin .array) =>
      match v, element with
      | .array _, none => True
      | .array items, some inner => ∀ item ∈ items, item = .null ∨ Canonical table inner item
      | _, _ => False
    | .ok (.builtin .hash) =>
      match v, value with
      | .map _, none => True
      | .map entries, some inner =>
        ∀ entry ∈ entries, entry.2 = .null ∨ Canonical table inner entry.2
      | _, _ => False
    | .ok (.builtin b) => v.kind ∈ b.forms
    | .ok .record =>
      ∃ c e, table.classOf? ⟨declared, optional, default, description, element, value, cls⟩ = some c ∧
        v = .entity e ∧ e.isA c = true
    | .ok (.custom _) => False
    | .error _ => False

def Settled (table : FilterTable) (options : Options) (value : Value) : Prop :=
  value = .null ∨ table.Canonical options value

theorem canonical_plain {options : Options} {b : Builtin} (value : Value)
    (kind : table.resolve options.declared = .ok (.builtin b)) (bare : options.itemsOf b = none) :
    table.Canonical options value ↔ b.accepts value = true := by
  obtain ⟨declared, optional, default, description, element, inner, cls⟩ := options
  rw [Builtin.accepts_iff, Canonical.eq_def]
  simp only at kind
  cases b with
  | array | hash =>
    simp only [Options.itemsOf] at bare
    subst bare
    cases value <;> simp [kind, Builtin.forms, Value.kind]
  | _ => simp only [kind]

theorem canonical_array {options inner : Options} (value : Value)
    (kind : table.resolve options.declared = .ok (.builtin .array))
    (items : options.element = some inner) :
    table.Canonical options value ↔
      ∃ items, value = .array items ∧ ∀ item ∈ items, table.Settled inner item := by
  obtain ⟨declared, optional, default, description, element, below, cls⟩ := options
  simp only at kind items
  subst items
  rw [Canonical.eq_def]
  simp only [kind]
  cases value <;> simp [Settled]

theorem canonical_hash {options inner : Options} (value : Value)
    (kind : table.resolve options.declared = .ok (.builtin .hash))
    (items : options.value = some inner) :
    table.Canonical options value ↔
      ∃ entries, value = .map entries ∧ ∀ entry ∈ entries, table.Settled inner entry.2 := by
  obtain ⟨declared, optional, default, description, element, below, cls⟩ := options
  simp only at kind items
  subst items
  rw [Canonical.eq_def]
  simp only [kind]
  cases value <;> simp [Settled]

theorem canonical_record {options : Options} (value : Value)
    (kind : table.resolve options.declared = .ok .record) :
    table.Canonical options value ↔
      ∃ c e, table.classOf? options = some c ∧ value = .entity e ∧ e.isA c = true := by
  obtain ⟨declared, optional, default, description, element, inner, cls⟩ := options
  simp only at kind
  rw [Canonical.eq_def]
  simp only [kind]

theorem recordClass_ok_iff (name : String) (options : Options) (c : EntityClass) :
    (RecordFilter.mk ⟨name, options⟩ table.store).recordClass = .ok c ↔
      table.classOf? options = some c := by
  unfold RecordFilter.recordClass RecordFilter.classRef? classOf?
  simp only
  cases options.cls.or ((options.declared.typeId?.bind TypeId.entityClass?).map .handle) with
  | none => simp
  | some ref =>
    cases table.store with
    | none => cases ref <;> simp
    | some store => cases h : store.resolveClass ref.className <;> simp [h]

theorem processBuiltin_settled {b : Builtin} {base : FilterBase} {v w : Value}
    (h : (Filter.processBuiltin b base v).result = .ok w) : w = .null ∨ b.accepts w = true := by
  rw [Filter.processBuiltin_result] at h
  split at h
  · rename_i stays
    cases h
    rw [Bool.or_eq_true, Value.isNull_iff] at stays
    exact stays
  · cases hc : b.cast? v with
    | none => simp [hc] at h
    | some canonical =>
      simp only [hc, Except.ok.injEq] at h
      subst h
      exact .inr (Builtin.accepts_of_cast? hc)

theorem processBuiltin_of_settled {b : Builtin} {base : FilterBase} {w : Value}
    (h : w = .null ∨ b.accepts w = true) : (Filter.processBuiltin b base w).result = .ok w := by
  rw [← Value.isNull_iff, ← Bool.or_eq_true] at h
  rw [Filter.processBuiltin_result, if_pos h]

/-- Whatever comes out is null or canonical. -/
theorem Built.process_settled (sound : table.StoreSound) {name : String} {options : Options}
    {filter : Filter} (built : Built table name options filter) {v w : Value}
    (h : (filter.process v).result = .ok w) : table.Settled options w := by
  induction built generalizing v w with
  | plain kind bare =>
    rw [Filter.process_plain] at h
    rw [Settled, canonical_plain w kind bare]
    exact processBuiltin_settled h
  | array kind items below ih =>
    rw [Settled, canonical_array w kind items]
    rw [Filter.process_array] at h
    split at h
    · exact .inl (Except.ok.inj h).symm
    · obtain ⟨results, hm, rfl⟩ := (Sequence.map_ok_iff _ _ _).mp h
      refine .inr ⟨results, rfl, ?_⟩
      intro result member
      obtain ⟨_, _, hp⟩ := Sequence.exists_of_mapM_ok hm member
      exact ih hp
    · cases h
  | hash kind items below ih =>
    rw [Settled, canonical_hash w kind items]
    rw [Filter.process_hash] at h
    split at h
    · exact .inl (Except.ok.inj h).symm
    · obtain ⟨results, hm, rfl⟩ := (Sequence.map_ok_iff _ _ _).mp h
      refine .inr ⟨results, rfl, ?_⟩
      intro result member
      obtain ⟨entry, _, he⟩ := Sequence.exists_of_mapM_ok hm member
      obtain ⟨item, hp, rfl⟩ := (Sequence.map_ok_iff _ _ _).mp he
      exact ih hp
    · cases h
  | @record name options kind =>
    rw [Settled, canonical_record w kind]
    rw [Filter.process] at h
    by_cases hn : v = .null
    · subst hn
      exact .inl (Except.ok.inj h).symm
    · rw [RecordFilter.process_result hn, Sequence.bind_ok_iff] at h
      obtain ⟨c, hc, h⟩ := h
      have resolved := (recordClass_ok_iff name options c).mp hc
      split at h
      · rename_i accepted
        obtain ⟨e, rfl, he⟩ := (RecordFilter.accepts_iff hc v).mp accepted
        exact .inr ⟨c, e, resolved, (Except.ok.inj h).symm, he⟩
      · -- here alone it counts what a store may answer
        obtain ⟨store, id, e, hs, -, found, rfl⟩ := RecordFilter.castIn_ok h
        exact .inr ⟨c, e, resolved, rfl, sound store hs c id e found⟩

/-- Null and canonical values stay as they are. -/
theorem Built.process_of_settled {name : String} {options : Options} {filter : Filter}
    (built : Built table name options filter) {w : Value} (h : table.Settled options w) :
    (filter.process w).result = .ok w := by
  induction built generalizing w with
  | plain kind bare =>
    rw [Settled, canonical_plain w kind bare] at h
    rw [Filter.process_plain]
    exact processBuiltin_of_settled h
  | array kind items below ih =>
    rw [Settled, canonical_array w kind items] at h
    rw [Filter.process_array]
    rcases h with rfl | ⟨given, rfl, settled⟩
    · rfl
    · have self := Sequence.mapM_self fun item member => ih (settled item member)
      exact (Sequence.map_ok_iff _ _ _).mpr ⟨given, self, rfl⟩
  | @hash name options inner item kind items below ih =>
    rw [Settled, canonical_hash w kind items] at h
    rw [Filter.process_hash]
    rcases h with rfl | ⟨given, rfl, settled⟩
    · rfl
    · have self : ∀ entry ∈ given,
          (item.process entry.2).result.map (fun value => (entry.1, value)) = .ok entry := by
        intro entry member
        rw [ih (settled entry member)]
        rfl
      exact (Sequence.map_ok_iff _ _ _).mpr ⟨given, Sequence.mapM_self self, rfl⟩
  | @record name options kind =>
    rw [Settled, canonical_record w kind] at h
    rw [Filter.process]
    rcases h with rfl | ⟨c, e, resolved, rfl, he⟩
    · rfl
    · have hc := (recordClass_ok_iff name options c).mpr resolved
      have accepted := (RecordFilter.accepts_iff hc (.entity e)).mpr ⟨e, rfl, he⟩
      have hn : Value.entity e ≠ .null := by simp
      rw [RecordFilter.process_result hn, hc]
      simp only [Except.bind, accepted, if_true]

/-- The fixed points of a filter are null and the canonical values, and it reaches one at once. -/
theorem process_fixes_canonical (plain : table.CustomFree) (sound : table.StoreSound)
    (name : String) (options : Options) (filter : Filter)
    (built : (table.build name options).result = .ok filter) :
    (∀ v w, (filter.process v).result = .ok w →
      (w = .null ∨ table.Canonical options w) ∧ (filter.process w).result = .ok w) ∧
    ∀ w, (filter.process w).result = .ok w ↔ w = .null ∨ table.Canonical options w := by
  have known := plain.built built
  constructor
  · intro v w h
    have settled := known.process_settled sound h
    exact ⟨settled, known.process_of_settled settled⟩
  · intro w
    exact ⟨known.process_settled sound, known.process_of_settled⟩

def sampled : FilterTable := standard.withStore MemoryStore.sample.toStore

def owners : Options :=
  { declared := .tag "array", element := some (.ofType (.id (.entity (.root "User")))) }

def admins : Value :=
  .array [.entity ⟨⟨"Admin", ["User"]⟩, .int 7, [("name", .string "Grace")]⟩, .null]

theorem process_fixes_canonical_admins :
    ∃ filter, (sampled.build "owners" owners).result = .ok filter ∧
      (filter.process (.array [.int 7, .null])).result = .ok admins ∧
      (filter.process admins).result = .ok admins := by
  have plain : sampled.CustomFree := customFree_standard.withStore _
  have sound : sampled.StoreSound := by
    rintro _ ⟨⟩
    exact MemoryStore.toStore_sound MemoryStore.sample
  have built : Built sampled "owners" owners _ := .array rfl rfl (.record rfl)
  have fixed := process_fixes_canonical plain sound "owners" owners _ built.build_result
  refine ⟨_, built.build_result, rfl, ?_⟩
  exact (fixed.1 (.array [.int 7, .null]) admins rfl).2

end FilterTable

end ArgCheck
