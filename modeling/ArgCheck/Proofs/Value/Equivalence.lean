import ArgCheck.Proofs.Value.Equality
import ArgCheck.Proofs.Value.Induction
import Mathlib.Algebra.Order.Ring.Rat
import Mathlib.Tactic.FieldSimp

set_option autoImplicit false

/-!
# Equality as an equivalence

Away from doubles, of which NaN differs from itself, equality of values is an equivalence
(`Value.equal_equivalence`). What it tells apart is said by the relation `Value.Same`: numbers and instants
however they are written, what stands under each key of a map or of a record's attributes, a class by its
name, and the rest as it is.
-/

namespace ArgCheck

namespace Decimal

def number (d : Decimal) : ℚ := d.signed / 10 ^ d.scale

theorem sameNumber_iff_number (a b : Decimal) :
    a.sameNumber b = true ↔ a.number = b.number := by
  have unit : ∀ scale : Nat, ((Int.pow 10 scale : Int) : ℚ) = 10 ^ scale := Int.cast_pow 10
  have positive : ∀ scale : Nat, (10 : ℚ) ^ scale ≠ 0 := fun scale => pow_ne_zero scale (by decide)
  rw [sameNumber_iff, number, number, div_eq_div_iff (positive _) (positive _), ← unit, ← unit]
  exact_mod_cast Iff.rfl

end Decimal

namespace Value

/-- No double stands anywhere inside. -/
inductive FloatFree : Value → Prop
  | intro {value : Value} (top : ∀ x, value ≠ .float x)
      (inside : ∀ part ∈ value.parts, part.FloatFree) : FloatFree value

/-- Values that stand for the same: decimals for one number and timestamps for one nanosecond of one second
of UTC, maps with the same under each key in whatever order, and records of one class by its name. -/
inductive Same : Value → Value → Prop
  | null : Same .null .null
  | bool (b : Bool) : Same (.bool b) (.bool b)
  | int (n : Int64) : Same (.int n) (.int n)
  | decimal {a b : Decimal} (number : a.number = b.number) : Same (.decimal a) (.decimal b)
  | string (s : String) : Same (.string s) (.string s)
  | symbol (name : String) : Same (.symbol name) (.symbol name)
  | date (d : Calendar.Date) : Same (.date d) (.date d)
  | dateTime (t : Calendar.DateTime) : Same (.dateTime t) (.dateTime t)
  | timestamp {a b : Calendar.Timestamp}
      (seconds : a.wall.seconds - a.offset = b.wall.seconds - b.offset)
      (nanos : a.wall.clock.nano = b.wall.clock.nano) : Same (.timestamp a) (.timestamp b)
  | array {a b : List Value} (length : a.length = b.length)
      (items : ∀ i (here : i < a.length) (there : i < b.length), Same a[i] b[i]) :
      Same (.array a) (.array b)
  | map {a b : List (String × Value)}
      (keys : ∀ key, key ∈ Entries.keys a ↔ key ∈ Entries.keys b)
      (values : ∀ key x y, Entries.lookup key a = some x → Entries.lookup key b = some y →
        Same x y) : Same (.map a) (.map b)
  | entity {a b : Entity} (cls : a.cls.name = b.cls.name) (id : a.id = b.id)
      (keys : ∀ key, key ∈ Entries.keys a.attributes ↔ key ∈ Entries.keys b.attributes)
      (values : ∀ key x y, a.attribute? key = some x → b.attribute? key = some y → Same x y) :
      Same (.entity a) (.entity b)

variable {u v w : Value}

theorem mem_values_of_lookup {entries : List (String × Value)} {key : String} {x : Value}
    (found : Entries.lookup key entries = some x) : x ∈ entries.map Prod.snd :=
  List.mem_map_of_mem (Entries.mem_of_lookup found)

theorem Same.refl (free : v.FloatFree) : Same v v := by
  have inside : ∀ {entries : List (String × Value)} {key : String} {x y : Value},
      (∀ part ∈ entries.map Prod.snd, Same part part) → Entries.lookup key entries = some x →
        Entries.lookup key entries = some y → Same x y := by
    intro entries key x y each first second
    rw [first, Option.some.injEq] at second
    exact second ▸ each x (mem_values_of_lookup first)
  induction free with
  | @intro value top _ ih =>
    cases value with
    | null => exact .null
    | bool b => exact .bool b
    | int n => exact .int n
    | float x => exact absurd rfl (top x)
    | decimal d => exact .decimal rfl
    | string s => exact .string s
    | symbol name => exact .symbol name
    | date d => exact .date d
    | dateTime t => exact .dateTime t
    | timestamp t => exact .timestamp rfl rfl
    | array items => exact .array rfl fun i here _ => ih items[i] (List.getElem_mem here)
    | map entries => exact .map (fun _ => Iff.rfl) fun key x y => inside ih
    | entity e => exact .entity rfl rfl (fun _ => Iff.rfl) fun key x y => inside ih

theorem Same.symm (same : Same v w) : Same w v := by
  induction same with
  | null => exact .null
  | bool b => exact .bool b
  | int n => exact .int n
  | decimal number => exact .decimal number.symm
  | string s => exact .string s
  | symbol name => exact .symbol name
  | date d => exact .date d
  | dateTime t => exact .dateTime t
  | timestamp seconds nanos => exact .timestamp seconds.symm nanos.symm
  | array length _ ih => exact .array length.symm fun i here there => ih i there here
  | map keys _ ih =>
    exact .map (fun key => (keys key).symm) fun key x y here there => ih key y x there here
  | entity cls id keys _ ih =>
    exact .entity cls.symm id.symm (fun key => (keys key).symm)
      fun key x y here there => ih key y x there here

theorem Same.trans (first : Same u v) (second : Same v w) : Same u w := by
  have between : ∀ {a b : List (String × Value)} {key : String} {x : Value},
      (∀ key, key ∈ Entries.keys a ↔ key ∈ Entries.keys b) → Entries.lookup key a = some x →
        ∃ y, Entries.lookup key b = some y := by
    intro a b key x keys found
    rw [← Option.isSome_iff_exists, Entries.lookup_isSome, ← keys key, ← Entries.lookup_isSome,
      found]
    rfl
  induction first generalizing w with
  | null | bool | int | string | symbol | date | dateTime => exact second
  | decimal number =>
    cases second with
    | decimal further => exact .decimal (number.trans further)
  | timestamp seconds nanos =>
    cases second with
    | timestamp further rest => exact .timestamp (seconds.trans further) (nanos.trans rest)
  | array length _ ih =>
    cases second with
    | array further items =>
      refine .array (length.trans further) ?_
      intro i here there
      exact ih i here (length ▸ here) (items i (length ▸ here) there)
  | map keys _ ih =>
    cases second with
    | map further values =>
      refine .map (fun key => (keys key).trans (further key)) ?_
      intro key x z here there
      obtain ⟨y, middle⟩ := between keys here
      exact ih key x y here middle (values key y z middle there)
  | entity cls id keys _ ih =>
    cases second with
    | entity furtherCls furtherId further values =>
      refine .entity (cls.trans furtherCls) (id.trans furtherId)
        (fun key => (keys key).trans (further key)) ?_
      intro key x z here there
      obtain ⟨y, middle⟩ := between keys here
      exact ih key x y here middle (values key y z middle there)

theorem same_of_equal (hv : v.WellFormed) (hw : w.WellFormed) (free : v.FloatFree) :
    v.equal w = true → Same v w := by
  induction v using Value.induction generalizing w with
  | step v ih =>
    obtain ⟨top, inside⟩ := free
    have deeper : ∀ {x y : Value}, x ∈ v.parts → y ∈ w.parts → x.equal y = true → Same x y :=
      fun here there => ih _ here (hv.part here) (hw.part there) (inside _ here)
    -- One case for each pair of constructors that can be equal; all other pairs are the last.
    fun_cases equal v w with
    | case1 => exact fun _ => .null
    | case2 a b => exact fun h => beq_iff_eq.mp h ▸ .bool a
    | case3 a b => exact fun h => beq_iff_eq.mp h ▸ .int a
    | case4 a b => exact absurd rfl (top a)
    | case5 a b => exact fun h => .decimal ((Decimal.sameNumber_iff_number a b).mp h)
    | case6 a b => exact fun h => beq_iff_eq.mp h ▸ .string a
    | case7 a b => exact fun h => beq_iff_eq.mp h ▸ .symbol a
    | case8 a b => exact fun h => beq_iff_eq.mp h ▸ .date a
    | case9 a b => exact fun h => beq_iff_eq.mp h ▸ .dateTime a
    | case10 a b =>
      intro h
      obtain ⟨seconds, nanos⟩ := Prod.ext_iff.mp ((Calendar.Timestamp.sameInstant_iff a b).mp h)
      exact .timestamp seconds nanos
    | case11 a b =>
      intro h
      obtain ⟨length, items⟩ := (equalItems_iff a b).mp h
      refine .array length ?_
      intro i here there
      exact deeper (List.getElem_mem here) (List.getElem_mem there) (items i here there)
    | case12 a b =>
      intro h
      obtain ⟨keys, values⟩ := (covered_both_iff hv.1 hw.1).mp h
      refine .map keys ?_
      intro key x y here there
      exact deeper (mem_values_of_lookup here) (mem_values_of_lookup there) (values key x y here there)
    | case13 c i a d j b =>
      intro h
      obtain ⟨cls, id, cover⟩ := (equal_entity_iff ⟨c, i, a⟩ ⟨d, j, b⟩).mp h
      obtain ⟨keys, values⟩ := (covered_both_iff hv.1 hw.1).mp cover
      refine .entity cls id keys ?_
      intro key x y here there
      exact deeper (mem_values_of_lookup here) (mem_values_of_lookup there) (values key x y here there)
    | case14 =>
      intro h
      cases h

theorem Same.equal (same : Same v w) (hv : v.WellFormed) (hw : w.WellFormed) :
    v.equal w = true := by
  induction same with
  | null => rfl
  | bool b => exact beq_self_eq_true b
  | int n => exact beq_self_eq_true n
  | decimal number => exact (Decimal.sameNumber_iff_number _ _).mpr number
  | string s => exact beq_self_eq_true s
  | symbol name => exact beq_self_eq_true name
  | date d => exact beq_self_eq_true d
  | dateTime t => exact beq_self_eq_true t
  | timestamp seconds nanos =>
    exact (Calendar.Timestamp.sameInstant_iff _ _).mpr (Prod.ext seconds nanos)
  | array length _ ih =>
    refine (equalItems_iff _ _).mpr ⟨length, ?_⟩
    intro i here there
    exact ih i here there (hv.part (List.getElem_mem here)) (hw.part (List.getElem_mem there))
  | map keys _ ih =>
    refine (covered_both_iff hv.1 hw.1).mpr ⟨keys, ?_⟩
    intro key x y here there
    exact ih key x y here there (hv.part (mem_values_of_lookup here))
      (hw.part (mem_values_of_lookup there))
  | @entity a b cls id keys _ ih =>
    refine (equal_entity_iff a b).mpr ⟨cls, id, (covered_both_iff hv.1 hw.1).mpr ⟨keys, ?_⟩⟩
    intro key x y here there
    exact ih key x y here there (hv.part (mem_values_of_lookup here))
      (hw.part (mem_values_of_lookup there))

def Exact : Type := { value : Value // value.WellFormed ∧ value.FloatFree }

theorem equal_equivalence :
    (∀ v w : Exact, v.val.equal w.val = true ↔ Same v.val w.val) ∧
      Equivalence fun v w : Exact => v.val.equal w.val = true := by
  have same : ∀ v w : Exact, v.val.equal w.val = true ↔ Same v.val w.val := by
    rintro ⟨v, hv, free⟩ ⟨w, hw, -⟩
    exact ⟨same_of_equal hv hw free, fun same => same.equal hv hw⟩
  refine ⟨same, ?refl, ?symm, ?trans⟩
  case refl => exact fun v => (same v v).mpr (.refl v.property.2)
  case symm => exact fun {v w} h => (same w v).mpr ((same v w).mp h).symm
  case trans => exact fun {u v w} first second =>
    (same u w).mpr (((same u v).mp first).trans ((same v w).mp second))

/-- The cost is written with one digit more, the attributes come in the other order, and the class is
known with its ancestor. -/
theorem equal_equivalence_visits :
    let brief : Value := .entity ⟨⟨"Visit", []⟩, .int 7,
      [("open", .bool true), ("cost", .decimal ⟨false, 15, 1, by decide, by decide⟩)]⟩
    let full : Value := .entity ⟨⟨"Visit", ["Event"]⟩, .int 7,
      [("cost", .decimal ⟨false, 150, 2, by decide, by decide⟩), ("open", .bool true)]⟩
    brief.equal full = true ∧ full.equal brief = true ∧ brief.equal brief = true := by
  intro brief full
  have plain : ∀ part : Value, (∀ x, part ≠ .float x) → part.parts = [] → part.FloatFree :=
    fun part top empty => .intro top (by simp [empty])
  have parts : ∀ part ∈ brief.parts ++ full.parts, part.FloatFree := by
    simp only [brief, full, Value.parts, List.map_cons, List.map_nil, List.cons_append,
      List.nil_append, List.forall_mem_cons, List.not_mem_nil, false_implies, implies_true, and_true]
    refine ⟨?_, ?_, ?_, ?_⟩ <;> exact plain _ (by simp) rfl
  obtain ⟨here, there⟩ := List.forall_mem_append.mp parts
  let first : Exact :=
    ⟨brief, by simp [brief, WellFormed, WellFormedEntries], .intro (by simp [brief]) here⟩
  let second : Exact :=
    ⟨full, by simp [full, WellFormed, WellFormedEntries], .intro (by simp [full]) there⟩
  have equal : first.val.equal second.val = true := rfl
  exact ⟨equal, equal_equivalence.2.symm equal, equal_equivalence.2.refl first⟩

end Value

end ArgCheck
