import ArgCheck.Proofs.Entity.Memory
import ArgCheck.Proofs.Filter.Integers
import ArgCheck.Proofs.Filter.Records
import ArgCheck.Proofs.Text.Separators
import Mathlib.Data.List.Find

set_option autoImplicit false

/-!
# Numbers and texts as identifiers

A record whose identifier is a number is found by the number and by every text that spells it, and by no
other text. Where all records have such identifiers, which spelling comes in makes no difference but in
the message of a failed look-up (`process_spellings`). Texts that match the same number need not match
each other, so this is not so once an identifier is stored as a text.
-/

namespace ArgCheck

namespace EntityId

/-- Digits alone with at most one sign, between blanks. Unlike for integer arguments, no underscores may
stand between the digits. -/
def Spelling (s : String) (n : Int64) : Prop := '_' ∉ s.toList ∧ Numeral.Reads s n.toInt

theorem spells_iff (s : String) (n : Int64) : spells s n = true ↔ Spelling s n := by
  have whole := Text.mem_trim_iff (c := '_') rfl s.toList
  rw [spells, beq_iff_eq, Spelling]
  by_cases underscore : '_' ∈ s.toList
  · rw [Numeral.int64?_of_underscore (whole.mpr underscore)]
    simp [underscore]
  · have apart : '_' ∉ Builtin.trimmed s := fun member => underscore (whole.mp member)
    have read := Builtin.castInteger?_string s n
    rw [Builtin.castInteger?, Numeral.separatedInt64?_of_notMem apart] at read
    simp only [underscore, not_false_eq_true, true_and]
    exact read

theorem read_of_spelling {s : String} {n : Int64} (spelling : Spelling s n) :
    Numeral.int64? (Text.trim s.toList) = some n := by
  rw [← spells_iff, spells, beq_iff_eq] at spelling
  exact spelling

theorem unspelled_of_read {s : String} (unread : Numeral.int64? (Text.trim s.toList) = none)
    (n : Int64) : ¬ Spelling s n := by
  intro spelling
  rw [read_of_spelling spelling] at unread
  cases unread

/-- To a number all spellings of another number are like that number itself. -/
theorem matchesId_spelling {s : String} {n : Int64} (spelling : Spelling s n) (m : Int64) :
    (EntityId.int m).matchesId (.text s) = (EntityId.int m).matchesId (.int n) := by
  change spells s m = (m == n)
  rw [spells, read_of_spelling spelling, Bool.beq_comm]
  rfl

theorem matchesId_unspelled {s : String} (unspelled : ∀ n, ¬ Spelling s n) (m : Int64) :
    (EntityId.int m).matchesId (.text s) = false := by
  rw [← Bool.not_eq_true]
  intro matched
  exact unspelled m ((spells_iff s m).mp matched)

end EntityId

namespace MemoryStore

variable {store : MemoryStore} {c : EntityClass} {e : Entity}

/-- All identifiers are numbers. -/
def Numbered (store : MemoryStore) : Prop := ∀ e ∈ store.records, ∃ n, e.id = .int n

theorem Numbered.find?_text (numbered : store.Numbered) {s : String} {n : Int64}
    (spelling : EntityId.Spelling s n) (c : EntityClass) :
    store.find? c (.text s) = store.find? c (.int n) := by
  apply List.find?_congr
  intro e stored
  obtain ⟨m, number⟩ := numbered e stored
  rw [number, EntityId.matchesId_spelling spelling]

theorem Numbered.find?_unspelled (numbered : store.Numbered) {s : String}
    (unspelled : ∀ n, ¬ EntityId.Spelling s n) (c : EntityClass) :
    store.find? c (.text s) = none := by
  rw [find?_eq_none_iff]
  rintro e stored ⟨-, matched⟩
  obtain ⟨m, number⟩ := numbered e stored
  rw [number, EntityId.matchesId_unspelled unspelled] at matched
  cases matched

theorem Numbered.answers_iff (numbered : store.Numbered) (stored : e ∈ store.records) (n : Int64) :
    Answers c (.int n) e ↔ e.isA c = true ∧ e.id = .int n := by
  obtain ⟨m, number⟩ := numbered e stored
  rw [Answers, number, EntityId.int.injEq]
  exact and_congr_right fun _ => beq_iff_eq

theorem Earliest.congr {test other : Entity → Prop} {records : List Entity}
    (same : ∀ e ∈ records, (test e ↔ other e)) (earliest : Earliest test records e) :
    Earliest other records e := by
  obtain ⟨before, after, rfl, passes, earlier⟩ := earliest
  refine ⟨before, after, rfl, (same e (by simp)).mp passes, ?_⟩
  intro first member passed
  exact earlier first member ((same first (by simp [member])).mpr passed)

end MemoryStore

namespace RecordFilter

variable {store : MemoryStore}

/-- A number and its spellings find the first record of the class with that number, or else nothing. All
other texts find nothing. -/
theorem process_spellings {ref : ClassRef} (filter : RecordFilter) (c : EntityClass)
    (attached : filter.store = some store.toStore)
    (declared : filter.classRef? = some ref) (known : store.resolve? ref.className = some c)
    (numbered : store.Numbered) :
    (∀ n s, EntityId.Spelling s n →
      (∃ e, MemoryStore.Earliest (fun other => other.isA c = true ∧ other.id = .int n)
          store.records e ∧
        (filter.process (.int n)).result = .ok (.entity e) ∧
        (filter.process (.string s)).result = .ok (.entity e)) ∨
      (∀ e ∈ store.records, ¬ (e.isA c = true ∧ e.id = .int n)) ∧
        (filter.process (.int n)).result =
          .error (.entityNotFound filter.base.name c.name (Numeral.render n.toInt)) ∧
        (filter.process (.string s)).result =
          .error (.entityNotFound filter.base.name c.name s)) ∧
    ∀ s, (∀ n, ¬ EntityId.Spelling s n) →
      (filter.process (.string s)).result =
        .error (.entityNotFound filter.base.name c.name s) := by
  have resolved : filter.recordClass = .ok c := by
    have found : store.toStore.resolveClass ref.className = some c := known
    simp only [recordClass, declared, attached, found]
  have looked : ∀ value id, value.entityId? = some id →
      (filter.process value).result = (filter.find c id).result :=
    fun _ _ => process_identifier resolved
  constructor
  · intro n s spelling
    have same := numbered.find?_text spelling c
    rw [looked (.int n) (.int n) rfl, looked (.string s) (.text s) rfl, find_result attached,
      find_result attached, same]
    cases found : store.find? c (.int n) with
    | some e =>
      have earliest := (MemoryStore.find?_eq_some_iff e).mp found
      exact .inl ⟨e, earliest.congr fun other stored => numbered.answers_iff stored n, rfl, rfl⟩
    | none =>
      refine .inr ⟨?_, rfl, rfl⟩
      intro e stored
      rw [← numbered.answers_iff stored n]
      exact MemoryStore.find?_eq_none_iff.mp found e stored
  · intro s unspelled
    rw [looked (.string s) (.text s) rfl, find_result attached,
      numbered.find?_unspelled unspelled]
    rfl

def users : RecordFilter :=
  ⟨⟨"owner", .ofType (.id (.entity (.root "User")))⟩, some MemoryStore.sample.toStore⟩

theorem process_spellings_sample :
    MemoryStore.sample.Numbered ∧
      (∃ e, (users.process (.int 7)).result = .ok (.entity e) ∧
        (users.process (.string "\u2003+007\n")).result = .ok (.entity e)) ∧
      (users.process (.string "18446744073709551623")).result =
        .error (.entityNotFound "owner" "User" "18446744073709551623") := by
  have numbered : MemoryStore.sample.Numbered := by
    have all : ∀ e ∈ MemoryStore.sample.records, e.id = .int 42 ∨ e.id = .int 7 ∨ e.id = .int 1 := by
      decide
    intro e stored
    rcases all e stored with number | number | number
    · exact ⟨42, number⟩
    · exact ⟨7, number⟩
    · exact ⟨1, number⟩
  obtain ⟨spelled, unspelled⟩ :=
    process_spellings users (.root "User") rfl rfl rfl numbered
  refine ⟨numbered, ?_, unspelled _ ?_⟩
  · have spelling : EntityId.Spelling "\u2003+007\n" 7 := (EntityId.spells_iff _ _).mp (by decide)
    rcases spelled 7 _ spelling with ⟨e, -, byNumber, byText⟩ | ⟨nobody, -⟩
    · exact ⟨e, byNumber, byText⟩
    · have stored : ⟨⟨"Admin", ["User"]⟩, .int 7, [("name", .string "Grace")]⟩ ∈
          MemoryStore.sample.records := List.mem_cons_of_mem _ List.mem_cons_self
      exact absurd ⟨by decide, rfl⟩ (nobody _ stored)
  · exact EntityId.unspelled_of_read (by decide)

end RecordFilter

end ArgCheck
