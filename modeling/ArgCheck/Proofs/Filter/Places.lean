import ArgCheck.Proofs.Filter.Processing
import ArgCheck.Proofs.FilterTable.Chain

set_option autoImplicit false

/-!
# Where containers hand their items on

A container with a filter for its items leaves them to that filter, and so on down to the values that
a filter decides on by itself: the places of a value. They are processed depth first and in their order,
the containers around them stay as they are, and an error names the argument with a mark for each
container above it (`process_by_places`).
-/

namespace ArgCheck

/-- A value that is left to a filter itself, some containers down. -/
structure Filter.Place where
  depth : Nat
  filter : Filter
  value : Value

namespace Filter.Place

def deeper (place : Place) : Place := { place with depth := place.depth + 1 }

def outcome (place : Place) : Except ArgumentError Value :=
  (place.filter.process place.value).result

/-- The same place once its filter has succeeded. -/
structure Turns (before after : Place) : Prop where
  depth : after.depth = before.depth
  filter : after.filter = before.filter
  value : before.outcome = .ok after.value

theorem Turns.deeper {before after : Place} (h : before.Turns after) :
    before.deeper.Turns after.deeper :=
  ⟨congrArg Nat.succ h.depth, h.filter, h.value⟩

end Filter.Place

namespace Filter

/-- Depth first, and among items in their order. -/
def places : Filter → Value → List Place
  | .builtin .array base (some item), value =>
    match value with
    | .array items => items.flatMap fun inner => (places item inner).map Place.deeper
    | value => [⟨0, .builtin .array base (some item), value⟩]
  | .builtin .hash base (some item), value =>
    match value with
    | .map entries => entries.flatMap fun entry => (places item entry.2).map Place.deeper
    | value => [⟨0, .builtin .hash base (some item), value⟩]
  | filter, value => [⟨0, filter, value⟩]

/-- The containers that are gone through, arrays with their length and maps with their keys. Null
stands at each place. -/
def frame : Filter → Value → Value
  | .builtin .array _ (some item), .array items => .array (items.map (frame item))
  | .builtin .hash _ (some item), .map entries => .map (Entries.mapValues (frame item) entries)
  | _, _ => .null

end Filter

def nestedName (name : String) : Nat → String
  | 0 => name
  | depth + 1 => nestedName name depth ++ "[]"

theorem nestedName_child (name : String) (depth : Nat) :
    nestedName (name ++ "[]") depth = nestedName name (depth + 1) := by
  induction depth with
  | zero => rfl
  | succ depth ih => rw [nestedName, ih]; rfl

namespace Filter

variable {filter : Filter} {value result : Value} {error : ArgumentError}

def Alone (filter : Filter) (value : Value) : Prop :=
  filter.places value = [⟨0, filter, value⟩] ∧ filter.frame value = .null

theorem alone_plain (b : Builtin) (base : FilterBase) (value : Value) :
    (Filter.builtin b base none).Alone value := by
  cases b <;> exact ⟨rfl, rfl⟩

theorem alone_array (base : FilterBase) (item : Filter) (h : ∀ items, value ≠ .array items) :
    (Filter.builtin .array base (some item)).Alone value := by
  cases value with
  | array items => exact absurd rfl (h items)
  | _ => exact ⟨rfl, rfl⟩

theorem alone_hash (base : FilterBase) (item : Filter) (h : ∀ entries, value ≠ .map entries) :
    (Filter.builtin .hash base (some item)).Alone value := by
  cases value with
  | map entries => exact absurd rfl (h entries)
  | _ => exact ⟨rfl, rfl⟩

theorem alone_record (record : RecordFilter) (value : Value) :
    (Filter.record record).Alone value := ⟨rfl, rfl⟩

theorem Alone.error_iff (alone : filter.Alone value) : (filter.process value).result = .error error ↔
    Sequence.FailsFirst Place.outcome (filter.places value) error := by
  rw [alone.1, Sequence.failsFirst_singleton]
  rfl

/-- The result has the frame of the value, and at its places what their filters have made. -/
def Carries (filter : Filter) (value result : Value) : Prop :=
  filter.frame result = filter.frame value ∧
    List.Forall₂ Place.Turns (filter.places value) (filter.places result)

theorem Alone.carries (before : filter.Alone value) (after : filter.Alone result)
    (h : (filter.process value).result = .ok result) : filter.Carries value result := by
  rw [Carries, before.1, before.2, after.1, after.2]
  exact ⟨rfl, .cons ⟨rfl, rfl, h⟩ .nil⟩

theorem failsFirst_deeper (places : List Place) (error : ArgumentError) :
    Sequence.FailsFirst Place.outcome (places.map Place.deeper) error ↔
      Sequence.FailsFirst Place.outcome places error := by
  rw [← List.filterMap_eq_map]
  refine (Sequence.failsFirst_filterMap ?_ ?_ places error).symm
  · intro place skipped
    cases skipped
  · intro place other same
    cases same
    rfl

theorem forall₂_deeper {before after : List Place} (h : List.Forall₂ Place.Turns before after) :
    List.Forall₂ Place.Turns (before.map Place.deeper) (after.map Place.deeper) := by
  rw [List.forall₂_map_left_iff, List.forall₂_map_right_iff]
  exact h.imp fun _ _ turns => turns.deeper

theorem carries_array (base : FilterBase) {item : Filter} {items results : List Value}
    (h : List.Forall₂ item.Carries items results) :
    (Filter.builtin .array base (some item)).Carries (.array items) (.array results) := by
  constructor
  · have same := Sequence.map_eq_of_forall₂ (h.imp fun _ _ carries => carries.1)
    exact congrArg Value.array same
  · exact List.rel_flatMap h fun _ _ carries => forall₂_deeper carries.2

theorem carries_hash (base : FilterBase) {item : Filter} {entries results : List (String × Value)}
    (h : List.Forall₂ (fun entry result => result.1 = entry.1 ∧ item.Carries entry.2 result.2)
      entries results) :
    (Filter.builtin .hash base (some item)).Carries (.map entries) (.map results) := by
  constructor
  · have same : Entries.mapValues item.frame results = Entries.mapValues item.frame entries := by
      refine Sequence.map_eq_of_forall₂ (h.imp ?_)
      intro entry result carries
      rw [carries.1, carries.2.1]
    exact congrArg Value.map same
  · exact List.rel_flatMap h fun _ _ carries => forall₂_deeper carries.2.2

end Filter

namespace FilterTable

variable {table : FilterTable} {name : String} {options : Options} {filter : Filter}

theorem Built.process_error_iff (built : Built table name options filter) (value : Value)
    (error : ArgumentError) : (filter.process value).result = .error error ↔
      Sequence.FailsFirst Filter.Place.outcome (filter.places value) error := by
  induction built generalizing value error with
  | plain kind bare => exact (Filter.alone_plain _ _ value).error_iff
  | @array name options inner item kind items below ih =>
    cases value with
    | array values =>
      rw [Filter.process_array, Sequence.map_error_iff, Sequence.mapM_error_iff]
      refine Sequence.failsFirst_flatMap ?_ values error
      intro value error
      rw [ih, Filter.failsFirst_deeper]
    | _ => exact (Filter.alone_array _ _ (by simp)).error_iff
  | @hash name options inner item kind items below ih =>
    cases value with
    | map entries =>
      rw [Filter.process_hash, Sequence.map_error_iff, Sequence.mapM_error_iff]
      refine Sequence.failsFirst_flatMap ?_ entries error
      intro entry error
      rw [Sequence.map_error_iff, ih, Filter.failsFirst_deeper]
    | _ => exact (Filter.alone_hash _ _ (by simp)).error_iff
  | record kind => exact (Filter.alone_record _ value).error_iff

theorem Built.carries (built : Built table name options filter) {value result : Value}
    (h : (filter.process value).result = .ok result) : filter.Carries value result := by
  induction built generalizing value result with
  | plain kind bare => exact (Filter.alone_plain _ _ value).carries (Filter.alone_plain _ _ result) h
  | @array name options inner item kind items below ih =>
    have processed := h
    rw [Filter.process_array] at processed
    split at processed
    · cases processed
      exact (Filter.alone_array _ _ (by simp)).carries (Filter.alone_array _ _ (by simp)) h
    · rename_i values
      obtain ⟨results, each, rfl⟩ := (Sequence.map_ok_iff _ _ _).mp processed
      exact Filter.carries_array _ (((Sequence.mapM_ok_iff _ _ _).mp each).imp fun _ _ => ih)
    · cases processed
  | @hash name options inner item kind items below ih =>
    have processed := h
    rw [Filter.process_hash] at processed
    split at processed
    · cases processed
      exact (Filter.alone_hash _ _ (by simp)).carries (Filter.alone_hash _ _ (by simp)) h
    · rename_i entries
      obtain ⟨results, each, rfl⟩ := (Sequence.map_ok_iff _ _ _).mp processed
      refine Filter.carries_hash _ (((Sequence.mapM_ok_iff _ _ _).mp each).imp ?_)
      intro entry outcome found
      obtain ⟨item, done, rfl⟩ := (Sequence.map_ok_iff _ _ _).mp found
      exact ⟨rfl, ih done⟩
    · cases processed
  | record kind => exact (Filter.alone_record _ value).carries (Filter.alone_record _ result) h

/-- The filter of a place is that of its level, and its errors name it by its level. -/
structure Situated (table : FilterTable) (name : String) (options : Options)
    (place : Filter.Place) : Prop where
  built : ∃ inner, (options.chain table.kindOf)[place.depth]? = some inner ∧
    (table.build (nestedName name place.depth) inner).result = .ok place.filter
  named : ∀ error, place.outcome = .error error →
    error.argument? = some (nestedName name place.depth)

theorem Built.situated_alone (built : Built table name options filter) {value : Value}
    (alone : filter.Alone value)
    (named : ∀ error, (filter.process value).result = .error error → error.argument? = some name) :
    ∀ place ∈ filter.places value, table.Situated name options place := by
  intro place member
  rw [alone.1, List.mem_singleton] at member
  subst member
  exact ⟨⟨options, Options.head_chain options, built.build_result⟩, named⟩

theorem Situated.deeper {inner : Options} {b : Builtin} {place : Filter.Place}
    (situated : table.Situated (name ++ "[]") inner place)
    (kind : table.resolve options.declared = .ok (.builtin b))
    (items : options.itemsOf b = some inner) : table.Situated name options place.deeper := by
  obtain ⟨⟨level, found, built⟩, named⟩ := situated
  rw [nestedName_child] at built named
  refine ⟨⟨level, ?_, built⟩, named⟩
  rw [Options.chain_of_items (kindOf_of_resolve kind) items]
  exact found

theorem Built.situated (built : Built table name options filter) (value : Value) :
    ∀ place ∈ filter.places value, table.Situated name options place := by
  induction built generalizing value with
  | @plain name options b kind bare =>
    refine (Built.plain kind bare).situated_alone (Filter.alone_plain _ _ value) ?_
    intro error fails
    rw [Filter.process_plain] at fails
    rw [Filter.processBuiltin_error fails]
    rfl
  | @array name options inner item kind items below ih =>
    cases value with
    | array values =>
      intro place member
      obtain ⟨value, -, member⟩ := List.mem_flatMap.mp member
      obtain ⟨place, inside, rfl⟩ := List.mem_map.mp member
      exact (ih value place inside).deeper kind items
    | _ =>
      refine (Built.array kind items below).situated_alone (Filter.alone_array _ _ (by simp)) ?_
      intro error fails
      cases fails <;> rfl
  | @hash name options inner item kind items below ih =>
    cases value with
    | map entries =>
      intro place member
      obtain ⟨entry, -, member⟩ := List.mem_flatMap.mp member
      obtain ⟨place, inside, rfl⟩ := List.mem_map.mp member
      exact (ih entry.2 place inside).deeper kind items
    | _ =>
      refine (Built.hash kind items below).situated_alone (Filter.alone_hash _ _ (by simp)) ?_
      intro error fails
      cases fails <;> rfl
  | @record name options kind =>
    exact (Built.record kind).situated_alone (Filter.alone_record _ value) fun error fails =>
      RecordFilter.process_error_argument fails

/-- A value goes through if all its places do, and keeps its containers. Else the error is that of the
first place that fails, under the name that the argument has there. -/
theorem process_by_places (plain : table.CustomFree) (name : String) (options : Options)
    (filter : Filter) (built : (table.build name options).result = .ok filter) (value : Value) :
    ((∃ result, (filter.process value).result = .ok result) ↔
      ∀ place ∈ filter.places value, ∃ result, place.outcome = .ok result) ∧
    (∀ result, (filter.process value).result = .ok result →
      filter.frame result = filter.frame value ∧
        List.Forall₂ Filter.Place.Turns (filter.places value) (filter.places result)) ∧
    (∀ error, (filter.process value).result = .error error ↔
      ∃ before place after, filter.places value = before ++ place :: after ∧
        (∀ earlier ∈ before, ∃ result, earlier.outcome = .ok result) ∧
        place.outcome = .error error) ∧
    ∀ place ∈ filter.places value, table.Situated name options place := by
  have known := plain.built built
  refine ⟨?_, ?_, ?_, known.situated value⟩
  · exact Sequence.ok_iff_of_error_iff (known.process_error_iff value)
  · intro result succeeds
    exact known.carries succeeds
  · intro error
    exact known.process_error_iff value error

def groups : Options where
  declared := .tag "hash"
  value := some
    { declared := .tag "array", element := some (.ofType (.id (.entity (.root "User")))) }

def strangers : Value :=
  .map [("b", .array [.null, .string "7"]), ("a", .array [.string "nobody", .bool true]),
    ("c", .string "none")]

theorem process_by_places_strangers :
    ∃ filter, ((standard.withStore MemoryStore.sample.toStore).build "groups" groups).result =
        .ok filter ∧
      (filter.process strangers).result =
        .error (.entityNotFound "groups[][]" "User" "nobody") := by
  have plain := customFree_standard.withStore MemoryStore.sample.toStore
  have built : Built (standard.withStore MemoryStore.sample.toStore) "groups" groups _ :=
    .hash rfl rfl (.array rfl rfl (.record rfl))
  have run := process_by_places plain "groups" groups _ built.build_result strangers
  refine ⟨_, built.build_result, (run.2.2.1 _).mpr ?_⟩
  refine ⟨[⟨2, _, .null⟩, ⟨2, _, .string "7"⟩], ⟨2, _, .string "nobody"⟩,
    [⟨2, _, .bool true⟩, ⟨1, _, .string "none"⟩], rfl, ?_, rfl⟩
  simp only [List.forall_mem_cons, List.not_mem_nil, false_implies, implies_true, and_true]
  exact ⟨⟨_, rfl⟩, ⟨_, rfl⟩⟩

end FilterTable

end ArgCheck
