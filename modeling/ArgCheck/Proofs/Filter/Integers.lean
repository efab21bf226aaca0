import ArgCheck.Proofs.Filter.Processing
import ArgCheck.Proofs.Numeral.Grammar

set_option autoImplicit false

/-!
# Integers out of strings and decimals

An integer argument takes a string that spells a whole number between blanks, and it takes the whole
part of a decimal, as long as the number is of 64 bits (`process_integer`). No value of another kind is
cast, floats apart.
-/

namespace ArgCheck

structure Decimal.Truncated (d : Decimal) (n : Int) : Prop where
  sign : if d.negative then n ≤ 0 else 0 ≤ n
  below : n.natAbs * Nat.pow 10 d.scale ≤ d.coefficient
  above : d.coefficient < (n.natAbs + 1) * Nat.pow 10 d.scale

namespace Decimal

theorem natAbs_signed (d : Decimal) : d.signed.natAbs = d.coefficient := by
  unfold signed
  split <;> omega

theorem natAbs_truncate (d : Decimal) :
    d.truncate.natAbs = d.coefficient / Nat.pow 10 d.scale := by
  have unit : (Int.pow 10 d.scale).natAbs = Nat.pow 10 d.scale := Int.natAbs_pow 10 d.scale
  rw [truncate, Int.natAbs_tdiv, natAbs_signed, unit]
  rfl

theorem truncate_sign (d : Decimal) : if d.negative then d.truncate ≤ 0 else 0 ≤ d.truncate := by
  have positive : 0 ≤ Int.pow 10 d.scale := Int.pow_nonneg (by decide)
  unfold truncate signed
  split
  · rw [Int.neg_tdiv]
    exact Int.neg_nonpos_of_nonneg (Int.tdiv_nonneg (Int.natCast_nonneg _) positive)
  · exact Int.tdiv_nonneg (Int.natCast_nonneg _) positive

theorem truncated_iff (d : Decimal) (n : Int) : d.Truncated n ↔ d.truncate = n := by
  have sign := d.truncate_sign
  constructor
  · rintro ⟨side, below, above⟩
    have size : d.truncate.natAbs = n.natAbs := by
      rw [natAbs_truncate]
      exact Nat.div_eq_of_lt_le below above
    by_cases negative : d.negative = true
    · rw [if_pos negative] at sign side
      omega
    · rw [if_neg negative] at sign side
      omega
  · rintro rfl
    have unit : 0 < Nat.pow 10 d.scale := Nat.pow_pos (by decide)
    refine ⟨sign, ?_, ?_⟩
    · rw [natAbs_truncate]
      exact Nat.div_mul_le_self _ _
    · rw [natAbs_truncate, Nat.mul_comm]
      exact Nat.lt_mul_div_succ _ unit

end Decimal

def Numeral.Reads (s : String) (n : Int) : Prop :=
  ∃ before core after, Text.Blank before ∧ Text.Blank after ∧
    s.toList = before ++ core ++ after ∧ Spells core n

namespace Builtin

theorem castInteger?_string (s : String) (i : Int64) :
    castInteger? (.string s) = some i ↔ Numeral.Reads s i.toInt := by
  rw [castInteger?, trimmed, Numeral.separatedInt64?_eq_some_iff]
  exact Text.trim_iff (fun _ => Numeral.Spells.solid) s.toList

theorem castInteger?_decimal (d : Decimal) (i : Int64) :
    castInteger? (.decimal d) = some i ↔ d.Truncated i.toInt := by
  rw [castInteger?, Numeral.toInt64?_eq_some_iff, Decimal.truncated_iff]
  exact eq_comm

end Builtin

namespace Filter

/-- An argument's integer filter makes the number of the value. -/
def Counts (base : FilterBase) (value : Value) (n : Int) : Prop :=
  ∃ i : Int64, i.toInt = n ∧
    ((Filter.builtin .integer base none).process value).result = .ok (.int i)

variable {base : FilterBase} {value : Value}

theorem process_integer_result (other : (value.isNull || Builtin.integer.accepts value) = false) :
    ((Filter.builtin .integer base none).process value).result =
      match Builtin.castInteger? value with
      | some i => .ok (.int i)
      | none => .error (.argumentType base.name "Integer") := by
  rw [process_plain, processBuiltin_result, other, if_neg Bool.false_ne_true, Builtin.cast?]
  cases Builtin.castInteger? value <;> rfl

theorem counts_iff {number : Int → Prop}
    (other : (value.isNull || Builtin.integer.accepts value) = false)
    (cast : ∀ i, Builtin.castInteger? value = some i ↔ number i.toInt) (n : Int) :
    Counts base value n ↔ number n ∧ -0x8000000000000000 ≤ n ∧ n ≤ 0x7fffffffffffffff := by
  have made : ∀ i, ((Filter.builtin .integer base none).process value).result = .ok (.int i) ↔
      number i.toInt := by
    intro i
    rw [process_integer_result other, ← cast i]
    cases Builtin.castInteger? value <;> simp
  rw [← Numeral.exists_toInt_iff, Counts]
  simp only [made]
  constructor
  · rintro ⟨i, rfl, counted⟩
    exact ⟨counted, i, rfl⟩
  · rintro ⟨counted, i, rfl⟩
    exact ⟨i, rfl, counted⟩

theorem error_of_not_counts (given : value ≠ .null) (h : ∀ n, ¬ Counts base value n) :
    ((Filter.builtin .integer base none).process value).result =
      .error (.argumentType base.name "Integer") := by
  have other : (value.isNull || Builtin.integer.accepts value) = false := by
    cases value with
    | null => exact absurd rfl given
    | int i => exact absurd ⟨i, rfl, rfl⟩ (h i.toInt)
    | _ => rfl
  rw [process_integer_result other]
  cases cast : Builtin.castInteger? value with
  | none => rfl
  | some i =>
    have counted : Counts base value i.toInt :=
      ⟨i, rfl, by rw [process_integer_result other, cast]⟩
    exact absurd counted (h i.toInt)

/-- Strings count as the numbers that they spell and decimals as their whole parts, within 64 bits. All
else is refused, and a value of a kind without numbers always is. -/
theorem process_integer (base : FilterBase) :
    (∀ s n, Counts base (.string s) n ↔
      Numeral.Reads s n ∧ -0x8000000000000000 ≤ n ∧ n ≤ 0x7fffffffffffffff) ∧
    (∀ d n, Counts base (.decimal d) n ↔
      d.Truncated n ∧ -0x8000000000000000 ≤ n ∧ n ≤ 0x7fffffffffffffff) ∧
    (∀ value, value ≠ .null → (∀ n, ¬ Counts base value n) →
      ((Filter.builtin .integer base none).process value).result =
        .error (.argumentType base.name "Integer")) ∧
    ∀ value, value.kind ∈ ["boolean", "symbol", "date", "date_time", "timestamp", "array", "hash",
        "entity"] →
      ((Filter.builtin .integer base none).process value).result =
        .error (.argumentType base.name "Integer") := by
  refine ⟨?_, ?_, ?_, ?_⟩
  · intro s n
    exact counts_iff rfl (Builtin.castInteger?_string s) n
  · intro d n
    exact counts_iff rfl (Builtin.castInteger?_decimal d) n
  · intro value given uncounted
    exact error_of_not_counts given uncounted
  · intro value kind
    cases value with
    | null | int | float | decimal | string => simp [Value.kind] at kind
    | _ => rfl

/-- The least integer with a fraction, and the greatest among blanks. The next one is too much, and a
symbol is none. -/
theorem process_integer_extremes :
    Counts ⟨"count", .ofType (.tag "integer")⟩
        (.decimal ⟨true, 92233720368547758089, 1, by decide, by decide⟩) (-0x8000000000000000) ∧
      Counts ⟨"count", .ofType (.tag "integer")⟩ (.string "\u2003+9_223372036854775_807\n")
        0x7fffffffffffffff ∧
      ((Filter.builtin .integer ⟨"count", .ofType (.tag "integer")⟩ none).process
        (.decimal ⟨false, 0x8000000000000000, 0, by decide, by decide⟩)).result =
          .error (.argumentType "count" "Integer") ∧
      ((Filter.builtin .integer ⟨"count", .ofType (.tag "integer")⟩ none).process
        (.symbol "1")).result = .error (.argumentType "count" "Integer") := by
  obtain ⟨strings, decimals, refused, others⟩ :=
    process_integer ⟨"count", .ofType (.tag "integer")⟩
  refine ⟨(decimals _ _).mpr ⟨⟨?_, ?_, ?_⟩, ?_⟩, (strings _ _).mpr ⟨?_, ?_⟩, refused _ ?_ ?_,
    others _ ?_⟩
  · decide
  · decide
  · decide
  · decide
  · exact ⟨['\u2003'], "+9_223372036854775_807".toList, ['\n'], by decide, by decide, by decide,
      (Numeral.spells_iff _ _).mpr (by decide)⟩
  · decide
  · intro null
    cases null
  · intro n counted
    obtain ⟨⟨sign, -, above⟩, -, upper⟩ := (decimals _ n).mp counted
    simp only [Bool.false_eq_true, if_false] at sign
    have size : 0x8000000000000000 < (n.natAbs + 1) * 1 := above
    omega
  · decide

end Filter

end ArgCheck
