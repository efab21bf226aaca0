import ArgCheck.Proofs.Entity.Hierarchy
import ArgCheck.Proofs.Filter.Records

set_option autoImplicit false

/-!
# Records of a class as records of the classes above

What a record argument of one class takes, an argument of a class above it takes as well, if the classes
that have come into the store and those of the values belong to one hierarchy (`process_along_isA`). An
entity stays what it is. An identifier may come to stand for another record, since the class above has
more of them.
-/

namespace ArgCheck

open EntityClass (Coherent)

def Value.handles : Value → List EntityClass
  | .entity e => [e.cls]
  | _ => []

namespace RecordFilter

/-- What is a record of the class below makes a record of the class above. The handle below has to be one
of the hierarchy, since the store goes by the chain that it knows for the name. -/
theorem process_along_isA {log : List MemoryStore.Action} {c p : EntityClass} {value found : Value}
    (narrow wide : RecordFilter)
    (coherent : Coherent (c :: (log.map MemoryStore.Action.cls ++ value.handles)))
    (below : c.isA p = true)
    (narrowStore : narrow.store = some (MemoryStore.empty.performAll log).toStore)
    (wideStore : wide.store = some (MemoryStore.empty.performAll log).toStore)
    (narrowClass : narrow.base.options.NamesClass c.name)
    (wideClass : wide.base.options.NamesClass p.name)
    (given : value ≠ .null) (taken : (narrow.process value).result = .ok found) :
    ∃ e, (wide.process value).result = .ok (.entity e) ∧ e.isA p = true ∧
      ∀ own, value = .entity own → e = own := by
  have performed : log.map MemoryStore.Action.cls ⊆
      c :: (log.map MemoryStore.Action.cls ++ value.handles) :=
    fun d member => List.mem_cons_of_mem c (List.mem_append_left _ member)
  obtain ⟨k, resolved, form⟩ := process_ok_cases narrowStore given taken
  have known := (recordClass_ok_iff narrowClass narrowStore k).mp resolved
  obtain rfl := MemoryStore.resolve?_of_coherent coherent performed List.mem_cons_self known
  obtain ⟨q, above, named⟩ := MemoryStore.exists_resolve?_above known below
  have widened := (recordClass_ok_iff wideClass wideStore q).mpr above
  rcases form with ⟨e, rfl, isOf⟩ | ⟨id, e, identified, looked⟩
  · have member : e.cls ∈ k :: (log.map MemoryStore.Action.cls ++ (Value.entity e).handles) :=
      List.mem_cons_of_mem k (List.mem_append_right _ List.mem_cons_self)
    have isAbove : e.isA p = true := coherent.isA_trans member List.mem_cons_self isOf below
    refine ⟨e, process_of_isA widened ?_, isAbove, ?_⟩
    · rwa [EntityOf.isA, EntityClass.isA_congr named]
    · rintro own ⟨⟩
      rfl
  · obtain ⟨first, earliest, isAbove⟩ :=
      MemoryStore.find?_above coherent performed List.mem_cons_self below looked
    refine ⟨first, ?_, isAbove, ?_⟩
    · rw [process_identifier widened identified, find_result wideStore,
        MemoryStore.find?_congr named, earliest]
    · rintro own rfl
      cases identified

def guest : Entity := ⟨⟨"Guest", ["Person"]⟩, .int 7, []⟩

def admin : Entity := ⟨⟨"Admin", ["User", "Person"]⟩, .text " 7 ", []⟩

def arrivals : List MemoryStore.Action := [.insert guest, .insert admin]

/-- Among users the identifier is the admin's. Among persons the guest comes first. -/
theorem process_along_isA_persons :
    let store := (MemoryStore.empty.performAll arrivals).toStore
    let users : RecordFilter :=
      ⟨⟨"owner", { declared := .tag "record", cls := some (.name "User") }⟩, some store⟩
    let persons : RecordFilter := ⟨⟨"visitor", .ofType (.id (.entity (.root "Person")))⟩, some store⟩
    (users.process (.int 7)).result = .ok (.entity admin) ∧
      (persons.process (.int 7)).result = .ok (.entity guest) ∧
      (∃ e, (persons.process (.int 7)).result = .ok (.entity e) ∧ e.isA (.root "Person") = true) ∧
      (persons.process (.entity admin)).result = .ok (.entity admin) := by
  intro store users persons
  have user : users.base.options.NamesClass "User" := .name rfl
  have person : persons.base.options.NamesClass "Person" := .declared rfl rfl rfl
  have below : EntityClass.isA ⟨"User", ["Person"]⟩ (.root "Person") = true := by decide
  refine ⟨rfl, rfl, ?_, ?_⟩
  · have coherent : Coherent (⟨"User", ["Person"]⟩ ::
        (arrivals.map MemoryStore.Action.cls ++ (Value.int 7).handles)) := by decide
    have given : Value.int 7 ≠ .null := by simp
    obtain ⟨e, taken, isOf, -⟩ :=
      process_along_isA users persons coherent below rfl rfl user person given rfl
    exact ⟨e, taken, isOf⟩
  · have coherent : Coherent (⟨"User", ["Person"]⟩ ::
        (arrivals.map MemoryStore.Action.cls ++ (Value.entity admin).handles)) := by decide
    have given : Value.entity admin ≠ .null := by simp
    obtain ⟨e, taken, -, own⟩ :=
      process_along_isA users persons coherent below rfl rfl user person given rfl
    rwa [own admin rfl] at taken

end RecordFilter

end ArgCheck
