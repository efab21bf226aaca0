import ArgCheck.Entity.Store

set_option autoImplicit false

/-!
# What a store in memory answers

A store that was empty at first has taken in some classes and records, one after the other. A class
name stands for the class that first came under it, and every record is found under all classes of
its own chain, even where the store knows those names by classes with other ancestors
(`performAll_answers`).
-/

namespace ArgCheck

namespace EntityClass

theorem map_name_ofChain (chain : List String) : (ofChain chain).map name = chain := by
  induction chain with
  | nil => rfl
  | cons name rest ih => rw [ofChain, List.map_cons, ih]

theorem chain_of_mem_ofChain {c : EntityClass} {chain : List String} (member : c ∈ ofChain chain) :
    c.chain <:+ chain := by
  induction chain with
  | nil => cases member
  | cons name rest ih =>
    rcases List.mem_cons.mp member with rfl | above
    · exact List.suffix_refl _
    · exact (ih above).trans (List.suffix_cons name rest)

theorem map_name_lineage (c : EntityClass) : c.lineage.map name = c.chain :=
  map_name_ofChain c.chain

theorem name_mem_chain {c d : EntityClass} (member : d ∈ c.lineage) : d.name ∈ c.chain := by
  rw [← map_name_lineage]
  exact List.mem_map_of_mem member

theorem ancestors_subset_chain {c d : EntityClass} (member : d ∈ c.lineage) :
    d.ancestors ⊆ c.chain := by
  intro ancestor above
  exact (chain_of_mem_ofChain member).subset (List.mem_cons_of_mem d.name above)

end EntityClass

namespace MemoryStore

inductive Action where
  | define (c : EntityClass)
  | insert (e : Entity)

namespace Action

def defines : Action → List EntityClass
  | .define c => c.lineage
  | .insert e => e.cls.lineage

def inserts : Action → List Entity
  | .define _ => []
  | .insert e => [e]

def isInsert : Action → Bool
  | .define _ => false
  | .insert _ => true

theorem length_flatMap_inserts (log : List Action) :
    (log.flatMap inserts).length = log.countP isInsert := by
  induction log with
  | nil => rfl
  | cons action rest ih =>
    rw [List.flatMap_cons, List.length_append, ih, List.countP_cons, Nat.add_comm]
    cases action <;> rfl

theorem defines_of_mem_inserts {log : List Action} {e : Entity} (stored : e ∈ log.flatMap inserts)
    {c : EntityClass} (member : c ∈ e.cls.lineage) : c ∈ log.flatMap defines := by
  obtain ⟨action, performed, inserted⟩ := List.mem_flatMap.mp stored
  refine List.mem_flatMap.mpr ⟨action, performed, ?_⟩
  cases action with
  | define d => cases inserted
  | insert other =>
    obtain rfl := List.mem_singleton.mp inserted
    exact member

/-- With a class all classes above it come in. -/
theorem defines_ancestor {log : List Action} {c : EntityClass} (defined : c ∈ log.flatMap defines)
    {ancestor : String} (above : ancestor ∈ c.ancestors) :
    ∃ d ∈ log.flatMap defines, d.name = ancestor := by
  obtain ⟨action, performed, member⟩ := List.mem_flatMap.mp defined
  obtain ⟨whole, lineage⟩ : ∃ whole : EntityClass, action.defines = whole.lineage := by
    cases action with
    | define d => exact ⟨d, rfl⟩
    | insert e => exact ⟨e.cls, rfl⟩
  rw [lineage] at member
  have named : ancestor ∈ whole.lineage.map EntityClass.name := by
    rw [EntityClass.map_name_lineage]
    exact EntityClass.ancestors_subset_chain member above
  obtain ⟨d, inside, same⟩ := List.mem_map.mp named
  exact ⟨d, List.mem_flatMap.mpr ⟨action, performed, lineage ▸ inside⟩, same⟩

end Action

def perform (store : MemoryStore) : Action → MemoryStore
  | .define c => store.defineClass c
  | .insert e => store.insert e

def performAll (store : MemoryStore) (log : List Action) : MemoryStore := log.foldl perform store

def firstNamed (name : String) (classes : List EntityClass) : Option EntityClass :=
  classes.find? fun c => c.name == name

section Classes

variable {name : String}

theorem firstNamed_append (name : String) (first second : List EntityClass) :
    firstNamed name (first ++ second) = (firstNamed name first).or (firstNamed name second) :=
  List.find?_append

theorem firstNamed_some {classes : List EntityClass} {c : EntityClass}
    (first : firstNamed name classes = some c) : c ∈ classes ∧ c.name = name := by
  have named := List.find?_some first
  exact ⟨List.mem_of_find?_eq_some first, by simpa using named⟩

theorem firstNamed_of_mem {classes : List EntityClass} {c : EntityClass} (member : c ∈ classes) :
    ∃ first, firstNamed c.name classes = some first ∧ first.name = c.name := by
  obtain ⟨first, found⟩ : ∃ first, firstNamed c.name classes = some first := by
    rw [← Option.isSome_iff_exists, firstNamed, List.find?_isSome]
    exact ⟨c, member, beq_self_eq_true c.name⟩
  exact ⟨first, found, (firstNamed_some found).2⟩

theorem get?_addClass (classes : Table String EntityClass) (c : EntityClass) (name : String) :
    (addClass classes c).get? name = (classes.get? name).or (firstNamed name [c]) := by
  have single : firstNamed name [c] = if c.name = name then some c else none := by
    by_cases same : c.name = name
    · simp [firstNamed, same]
    · simp [firstNamed, same]
  rw [single]
  unfold addClass
  by_cases known : classes.contains c.name = true
  · rw [if_pos known]
    by_cases same : c.name = name
    · rw [Table.contains_iff, ← Table.get?_isSome, same] at known
      obtain ⟨older, found⟩ := Option.isSome_iff_exists.mp known
      rw [found, Option.some_or]
    · rw [if_neg same, Option.or_none]
  · rw [if_neg known, Table.get?_insert]
    by_cases same : c.name = name
    · have absent : classes.get? name = none := by
        rwa [Table.contains_iff, ← Table.get?_isSome, same, Option.not_isSome_iff_eq_none] at known
      rw [if_pos same, if_pos same, absent, Option.none_or]
    · rw [if_neg same, if_neg same, Option.or_none]

theorem get?_foldl_addClass (defined : List EntityClass) (classes : Table String EntityClass)
    (name : String) :
    (defined.foldl addClass classes).get? name =
      (classes.get? name).or (firstNamed name defined) := by
  induction defined generalizing classes with
  | nil => exact Option.or_none.symm
  | cons c rest ih =>
    rw [List.foldl_cons, ih, get?_addClass, Option.or_assoc, ← firstNamed_append,
      List.singleton_append]

theorem resolve?_perform (store : MemoryStore) (action : Action) (name : String) :
    (store.perform action).resolve? name =
      (store.resolve? name).or (firstNamed name action.defines) := by
  cases action with
  | define c => exact get?_foldl_addClass c.lineage store.classes name
  | insert e => exact get?_foldl_addClass e.cls.lineage store.classes name

/-- What a name stands for stays, and a new name gets the first class that comes under it. -/
theorem resolve?_performAll (store : MemoryStore) (log : List Action) (name : String) :
    (store.performAll log).resolve? name =
      (store.resolve? name).or (firstNamed name (log.flatMap Action.defines)) := by
  induction log generalizing store with
  | nil => exact Option.or_none.symm
  | cons action rest ih =>
    change ((store.perform action).performAll rest).resolve? name = _
    rw [ih, resolve?_perform, Option.or_assoc, ← firstNamed_append, List.flatMap_cons]

theorem resolve?_performAll_empty (log : List Action) (name : String) :
    (empty.performAll log).resolve? name = firstNamed name (log.flatMap Action.defines) :=
  resolve?_performAll empty log name

end Classes

theorem records_perform (store : MemoryStore) (action : Action) :
    (store.perform action).records = store.records ++ action.inserts := by
  cases action with
  | define c => exact (List.append_nil _).symm
  | insert e => rfl

theorem records_performAll (store : MemoryStore) (log : List Action) :
    (store.performAll log).records = store.records ++ log.flatMap Action.inserts := by
  induction log generalizing store with
  | nil => exact (List.append_nil _).symm
  | cons action rest ih =>
    change ((store.perform action).performAll rest).records = _
    rw [ih, records_perform, List.append_assoc, List.flatMap_cons]

def Answers (c : EntityClass) (id : EntityId) (e : Entity) : Prop :=
  e.isA c = true ∧ e.id.matchesId id = true

def Earliest (test : Entity → Prop) (records : List Entity) (e : Entity) : Prop :=
  ∃ before after, records = before ++ e :: after ∧ test e ∧ ∀ earlier ∈ before, ¬ test earlier

section Records

variable {store : MemoryStore} {c : EntityClass} {id : EntityId}

theorem find?_eq_none_iff : store.find? c id = none ↔ ∀ e ∈ store.records, ¬ Answers c id e := by
  simp only [find?, List.find?_eq_none, Bool.and_eq_true, Answers]

theorem find?_eq_some_iff (e : Entity) :
    store.find? c id = some e ↔ Earliest (Answers c id) store.records e := by
  simp only [find?, List.find?_eq_some_iff_append, Bool.and_eq_true, Bool.not_eq_true',
    Bool.eq_false_iff, ne_eq, Earliest, Answers]
  constructor
  · rintro ⟨passes, before, after, split, earlier⟩
    exact ⟨before, after, split, passes, earlier⟩
  · rintro ⟨before, after, split, passes, earlier⟩
    exact ⟨passes, before, after, split, earlier⟩

theorem find?_of_mem {e : Entity} (stored : e ∈ store.records) (answers : Answers c id e) :
    ∃ found, store.find? c id = some found := by
  refine Option.ne_none_iff_exists'.mp ?_
  intro nothing
  exact find?_eq_none_iff.mp nothing e stored answers

end Records

end MemoryStore

theorem EntityId.matchesId_self (id : EntityId) : id.matchesId id = true := by
  cases id <;> exact beq_self_eq_true _

namespace MemoryStore

/-- Every record is found under the classes of its chain, nothing else is found, names keep their
first class, and the names above a known class are known. -/
theorem performAll_answers (log : List Action) :
    let store := empty.performAll log
    (∀ e ∈ store.records, ∀ c ∈ e.cls.lineage, ∃ k found,
      store.toStore.resolveClass c.name = some k ∧ k.name = c.name ∧
        store.toStore.findById k e.id = .ok (some found) ∧
        Earliest (fun other => c.name ∈ other.cls.chain ∧ other.id.matchesId e.id = true)
          (log.flatMap Action.inserts) found) ∧
    (∀ c id,
      (store.toStore.findById c id = .ok none ↔
        ∀ e ∈ store.records, ¬ (e.isA c = true ∧ e.id.matchesId id = true)) ∧
      ∀ e, store.toStore.findById c id = .ok (some e) →
        e ∈ store.records ∧ e.isA c = true ∧ e.id.matchesId id = true) ∧
    (∀ name,
      store.toStore.resolveClass name = firstNamed name (log.flatMap Action.defines) ∧
      ∀ k later, store.toStore.resolveClass name = some k →
        (store.performAll later).toStore.resolveClass name = some k) ∧
    (∀ name k, store.toStore.resolveClass name = some k →
      k.name = name ∧ ∀ ancestor ∈ k.ancestors, ∃ c,
        store.toStore.resolveClass ancestor = some c) ∧
    store.records = log.flatMap Action.inserts ∧
    store.size = log.countP Action.isInsert := by
  intro store
  have resolved : ∀ name, store.toStore.resolveClass name =
      firstNamed name (log.flatMap Action.defines) := resolve?_performAll_empty log
  have records : store.records = log.flatMap Action.inserts := records_performAll empty log
  refine ⟨?found, ?missed, ?kept, ?closed, records, ?size⟩
  case found =>
    intro e stored c member
    have defined := Action.defines_of_mem_inserts (records ▸ stored) member
    obtain ⟨k, first, named⟩ := firstNamed_of_mem defined
    have answers : Answers k e.id e := by
      refine ⟨?_, e.id.matchesId_self⟩
      rw [EntityOf.isA, EntityClass.isA_iff, named]
      exact EntityClass.name_mem_chain member
    obtain ⟨found, earliest⟩ := find?_of_mem stored answers
    refine ⟨k, found, (resolved c.name).trans first, named, congrArg Except.ok earliest, ?_⟩
    -- a class is asked for by its name alone
    have byName : Answers k e.id =
        fun other => c.name ∈ other.cls.chain ∧ other.id.matchesId e.id = true := by
      funext other
      rw [Answers, EntityOf.isA, EntityClass.isA_iff, named]
    rw [← byName, ← records]
    exact (find?_eq_some_iff found).mp earliest
  case missed =>
    intro c id
    constructor
    · refine Iff.trans ?_ find?_eq_none_iff
      exact ⟨Except.ok.inj, congrArg Except.ok⟩
    · intro e found
      obtain ⟨before, after, split, answers, -⟩ := (find?_eq_some_iff e).mp (Except.ok.inj found)
      exact ⟨split ▸ List.mem_append_right before List.mem_cons_self, answers⟩
  case kept =>
    intro name
    refine ⟨resolved name, ?_⟩
    intro k later known
    change (store.performAll later).resolve? name = some k
    have before : store.resolve? name = some k := known
    rw [resolve?_performAll, before, Option.some_or]
  case closed =>
    intro name k known
    rw [resolved] at known
    obtain ⟨defined, named⟩ := firstNamed_some known
    refine ⟨named, ?_⟩
    intro ancestor above
    obtain ⟨d, inside, same⟩ := Action.defines_ancestor defined above
    obtain ⟨c, first, -⟩ := firstNamed_of_mem inside
    exact ⟨c, by rw [resolved, ← same, first]⟩
  case size =>
    rw [size, records, Action.length_flatMap_inserts]

def hires : List Action :=
  [.define ⟨"Admin", ["Person"]⟩,
    .insert ⟨⟨"Admin", ["User"]⟩, .text " 7 ", []⟩,
    .insert ⟨.root "User", .int 7, []⟩]

theorem performAll_answers_hires :
    let store := empty.performAll hires
    (∃ k found, store.toStore.resolveClass "User" = some k ∧ k.name = "User" ∧
      store.toStore.findById k (.int 7) = .ok (some found) ∧
      Earliest (fun other => "User" ∈ other.cls.chain ∧ other.id.matchesId (.int 7) = true)
        [⟨⟨"Admin", ["User"]⟩, .text " 7 ", []⟩, ⟨.root "User", .int 7, []⟩] found) ∧
    store.toStore.findById (.root "Person") (.int 7) = .ok none ∧
    (store.performAll [.define (.root "Admin")]).toStore.resolveClass "Admin" =
      some ⟨"Admin", ["Person"]⟩ ∧
    (∃ c, store.toStore.resolveClass "Person" = some c) ∧
    store.size = 2 := by
  intro store
  obtain ⟨found, missed, kept, closed, -, size⟩ := performAll_answers hires
  have admin : store.toStore.resolveClass "Admin" = some ⟨"Admin", ["Person"]⟩ := rfl
  refine ⟨?_, ?_, (kept "Admin").2 _ _ admin, (closed "Admin" _ admin).2 "Person" ?_, size⟩
  · exact found ⟨.root "User", .int 7, []⟩ (List.mem_cons_of_mem _ List.mem_cons_self)
      (.root "User") List.mem_cons_self
  · refine (missed (.root "Person") (.int 7)).1.mpr ?_
    intro e stored
    rcases List.mem_cons.mp stored with rfl | stored
    · decide
    · obtain rfl := List.mem_singleton.mp stored
      decide
  · exact List.mem_cons_self

end MemoryStore

end ArgCheck
