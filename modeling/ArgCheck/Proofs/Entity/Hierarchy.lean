import ArgCheck.Proofs.Entity.Memory

set_option autoImplicit false

/-!
# Classes of one hierarchy

A handle brings the names above its class along, so two handles of one name may have different ones, and a
chain of `isA` may break in between. Where the handles agree on what stands above each name (`Coherent`),
`isA` is transitive (`Coherent.isA_trans`), a store gives back the handles that it was given, and whatever
it finds under a class it can find under the classes above (`MemoryStore.find?_above`).
-/

namespace ArgCheck

namespace EntityClass

variable {used : List EntityClass} {a b c p : EntityClass}

theorem mem_lineage_self (c : EntityClass) : c ∈ c.lineage := List.mem_cons_self

theorem exists_mem_lineage (below : c.isA p = true) : ∃ d ∈ c.lineage, d.name = p.name := by
  rw [isA_iff, ← map_name_lineage] at below
  exact List.mem_map.mp below

theorem isA_of_mem_lineage (member : b ∈ a.lineage) (below : b.isA p = true) : a.isA p = true := by
  rw [isA_iff] at below ⊢
  exact (chain_of_mem_ofChain member).subset below

/-- Only the name of the class above is asked for. -/
theorem isA_congr (same : p.name = c.name) (a : EntityClass) : a.isA p = a.isA c := by
  rw [isA, isA, same]

/-- Each name has one chain above it, be it a class's own name or one that stands above a class. -/
def Coherent (used : List EntityClass) : Prop :=
  ∀ c ∈ used.flatMap lineage, ∀ d ∈ used.flatMap lineage, c.name = d.name → c = d

deriving instance DecidableEq for EntityClass

instance : DecidablePred Coherent := fun used =>
  inferInstanceAs (Decidable (∀ c ∈ used.flatMap lineage, ∀ d ∈ used.flatMap lineage,
    c.name = d.name → c = d))

theorem mem_flatMap_lineage (member : a ∈ used) : a ∈ used.flatMap lineage :=
  List.mem_flatMap.mpr ⟨a, member, mem_lineage_self a⟩

theorem Coherent.isA_trans (coherent : Coherent used) (first : a ∈ used) (second : b ∈ used)
    (below : a.isA b = true) (above : b.isA p = true) : a.isA p = true := by
  obtain ⟨d, member, same⟩ := exists_mem_lineage below
  have inside : d ∈ used.flatMap lineage := List.mem_flatMap.mpr ⟨a, first, member⟩
  obtain rfl : d = b := coherent d inside b (mem_flatMap_lineage second) same
  exact isA_of_mem_lineage member above

end EntityClass

namespace MemoryStore

open EntityClass (Coherent)

namespace Action

def cls : Action → EntityClass
  | .define c => c
  | .insert e => e.cls

theorem defines_eq (action : Action) : action.defines = action.cls.lineage := by
  cases action <;> rfl

theorem flatMap_defines (log : List Action) :
    log.flatMap defines = (log.map cls).flatMap EntityClass.lineage := by
  have each : defines = fun action => action.cls.lineage := by
    funext action
    exact action.defines_eq
  rw [each, List.flatMap_map]

theorem cls_of_mem_inserts {log : List Action} {e : Entity} (stored : e ∈ log.flatMap inserts) :
    e.cls ∈ log.map cls := by
  obtain ⟨action, performed, inserted⟩ := List.mem_flatMap.mp stored
  cases action with
  | define c => cases inserted
  | insert other =>
    obtain rfl := List.mem_singleton.mp inserted
    exact List.mem_map_of_mem performed

end Action

/-- A look-up asks for the name of its class alone. -/
theorem find?_congr {c p : EntityClass} (same : p.name = c.name) (store : MemoryStore)
    (id : EntityId) : store.find? p id = store.find? c id := by
  unfold find? EntityOf.isA
  simp only [EntityClass.isA_congr same]

section Log

variable {used : List EntityClass} {log : List Action} {c p k : EntityClass}

theorem mem_defines_of_resolve? {name : String}
    (known : (empty.performAll log).resolve? name = some k) :
    k ∈ log.flatMap Action.defines ∧ k.name = name := by
  rw [resolve?_performAll_empty] at known
  exact firstNamed_some known

/-- The store knows a class by the same handle as all others do. -/
theorem resolve?_of_coherent (coherent : Coherent used) (performed : log.map Action.cls ⊆ used)
    (member : c ∈ used) (known : (empty.performAll log).resolve? c.name = some k) : k = c := by
  obtain ⟨defined, named⟩ := mem_defines_of_resolve? known
  rw [Action.flatMap_defines] at defined
  have inside : k ∈ used.flatMap EntityClass.lineage := by
    obtain ⟨d, given, above⟩ := List.mem_flatMap.mp defined
    exact List.mem_flatMap.mpr ⟨d, performed given, above⟩
  exact coherent k inside c (EntityClass.mem_flatMap_lineage member) named

/-- A store that knows a class knows the classes above. -/
theorem exists_resolve?_above {name : String}
    (known : (empty.performAll log).resolve? name = some k) (below : k.isA p = true) :
    ∃ q, (empty.performAll log).resolve? p.name = some q ∧ q.name = p.name := by
  obtain ⟨defined, -⟩ := mem_defines_of_resolve? known
  have present : ∃ d ∈ log.flatMap Action.defines, d.name = p.name := by
    rw [EntityClass.isA_iff, EntityClass.chain, List.mem_cons] at below
    rcases below with own | above
    · exact ⟨k, defined, own.symm⟩
    · exact Action.defines_ancestor defined above
  obtain ⟨d, inside, same⟩ := present
  obtain ⟨q, first, named⟩ := firstNamed_of_mem inside
  rw [← same, resolve?_performAll_empty]
  exact ⟨q, first, named⟩

/-- Under a class above something is found as well, though it may be an earlier record. -/
theorem find?_above (coherent : Coherent used) (performed : log.map Action.cls ⊆ used)
    (member : c ∈ used) (below : c.isA p = true) {id : EntityId} {e : Entity}
    (found : (empty.performAll log).find? c id = some e) :
    ∃ first, (empty.performAll log).find? p id = some first ∧ first.isA p = true := by
  obtain ⟨before, after, split, ⟨isOf, matched⟩, -⟩ := (find?_eq_some_iff e).mp found
  have stored : e ∈ (empty.performAll log).records := by
    rw [split]
    exact List.mem_append_right before List.mem_cons_self
  have inserted : e ∈ log.flatMap Action.inserts := by
    rwa [records_performAll] at stored
  have above : e.isA p = true :=
    coherent.isA_trans (performed (Action.cls_of_mem_inserts inserted)) member isOf below
  obtain ⟨first, earliest⟩ := find?_of_mem stored ⟨above, matched⟩
  obtain ⟨-, -, -, answers, -⟩ := (find?_eq_some_iff first).mp earliest
  exact ⟨first, earliest, answers.1⟩

end Log

end MemoryStore

end ArgCheck
