import ArgCheck.Proofs.Calendar.Rereading
import ArgCheck.Proofs.Decimal.Rereading
import ArgCheck.Proofs.Filter.Processing
import ArgCheck.Value.Equality

set_option autoImplicit false

/-!
# Strings made of values, and values made of them again

A string argument takes any value by its text. For booleans, integers, decimals, symbols, dates and
times the text is enough: the filter of the value's own type gets the value back from it
(`process_text`). A decimal keeps its scale, a timestamp its local time and its offset, which must be
one of whole minutes since the text has no seconds of it. The text of a zero may have a sign that no
decimal is read with. A leap second after the last second of a minute has a text of its own; after any
other second it has the text of the second that comes next, and is read as that.
-/

namespace ArgCheck

namespace Value

/-- The type whose filter reads the value's text, for the values whose text says all. -/
def ownType? : Value → Option Builtin
  | .bool _ => some .boolean
  | .int _ => some .integer
  | .decimal _ => some .decimal
  | .symbol _ => some .symbol
  | .date _ => some .date
  | .dateTime _ => some .dateTime
  | .timestamp t => if t.offset % 60 = 0 then some .dateTime else none
  | _ => none

def LeapsLast : Value → Prop
  | .dateTime t => t.clock.LeapsLast
  | .timestamp t => t.wall.clock.LeapsLast
  | _ => True

/-- What is read in the text of a value: a decimal zero has lost its sign, and times are as shown. -/
def recovered : Value → Value
  | .decimal d => .decimal d.unsignedZero
  | .dateTime t => .dateTime t.shown
  | .timestamp t => if whole : t.offset % 60 = 0 then .timestamp (t.shown whole) else .timestamp t
  | value => value

theorem cast?_text {v : Value} {b : Builtin} (own : v.ownType? = some b) :
    b.cast? (.string v.text) = some v.recovered := by
  cases v with
  | bool flag =>
    cases own
    cases flag <;> rfl
  | int n =>
    cases own
    have read : Builtin.castInteger? (.string (Value.int n).text) = some n := by
      rw [text, Builtin.castInteger?, Builtin.trimmed, Numeral.render, String.toList_ofList,
        (Numeral.solid_signed n.toInt).trim_self, Numeral.separatedInt64?_signed]
    rw [Builtin.cast?, read]
    rfl
  | decimal d =>
    cases own
    have read : Builtin.castDecimal? (.string (Value.decimal d).text) = some d.unsignedZero := by
      rw [text, Builtin.castDecimal?, Builtin.trimmed, Decimal.render, String.toList_ofList,
        d.solid_text.trim_self, Decimal.read?_text]
    rw [Builtin.cast?, read]
    rfl
  | symbol name =>
    cases own
    rfl
  | date d =>
    cases own
    rw [Builtin.cast?, text, Builtin.castDate?, String.toList_ofList, Calendar.date?_text]
    rfl
  | dateTime t =>
    cases own
    rw [Builtin.cast?, text, Builtin.castDateTime?, String.toList_ofList, Calendar.moment?_dateTime]
    rfl
  | timestamp t =>
    by_cases whole : t.offset % 60 = 0
    · simp only [ownType?, whole, if_true, Option.some.injEq] at own
      subst own
      rw [Builtin.cast?, text, Builtin.castDateTime?, String.toList_ofList,
        Calendar.moment?_timestamp whole, recovered, dif_pos whole]
      rfl
    · simp only [ownType?, whole, if_false] at own
      cases own
  | null | float | string | array | map | entity => cases own

theorem recovered_timestamp {t : Calendar.Timestamp} (last : (timestamp t).LeapsLast) :
    (timestamp t).recovered = timestamp t := by
  rw [recovered]
  split
  · rw [Calendar.Timestamp.shown_self _ last]
  · rfl

theorem recovered_equal {v : Value} {b : Builtin} (own : v.ownType? = some b)
    (last : v.LeapsLast) : v.recovered.equal v = true := by
  cases v with
  | decimal d => exact d.sameNumber_unsignedZero
  | timestamp t =>
    rw [recovered_timestamp last]
    exact (Calendar.Timestamp.sameInstant_iff t t).mpr rfl
  | dateTime t =>
    rw [recovered, Calendar.DateTime.shown_self last, equal, beq_self_eq_true]
  | bool | int | symbol | date => simp only [recovered, equal, beq_self_eq_true]
  | null | float | string | array | map | entity => cases own

theorem recovered_eq {v : Value} (last : v.LeapsLast) :
    v.recovered = v ∨ ∃ d, v = .decimal d ∧ d.coefficient = 0 ∧
      v.recovered = .decimal { d with negative := false } := by
  cases v with
  | decimal d =>
    by_cases zero : d.coefficient = 0
    · refine .inr ⟨d, rfl, zero, ?_⟩
      simp [recovered, Decimal.unsignedZero, zero]
    · exact .inl (congrArg Value.decimal (Decimal.unsignedZero_self (.inr zero)))
  | dateTime t => exact .inl (congrArg Value.dateTime (Calendar.DateTime.shown_self last))
  | timestamp t => exact .inl (recovered_timestamp last)
  | _ => exact .inl rfl

end Value

namespace Filter

theorem processBuiltin_cast {b : Builtin} {base : FilterBase} {v w : Value}
    (other : (v.isNull || b.accepts v) = false) (cast : b.cast? v = some w) :
    processBuiltin b base v = pure w := by
  rw [processBuiltin, other, if_neg Bool.false_ne_true, castBuiltin, cast]

theorem process_string {v : Value} {b : Builtin} (own : v.ownType? = some b) (base : FilterBase) :
    (Filter.builtin .string base none).process v = pure (.string v.text) := by
  rw [process_plain]
  refine processBuiltin_cast ?_ ?_
  · cases v with
    | null | string => cases own
    | _ => rfl
  · cases v <;> rfl

theorem process_own {v : Value} {b : Builtin} (own : v.ownType? = some b) (base : FilterBase) :
    (Filter.builtin b base none).process (.string v.text) = pure v.recovered := by
  rw [process_plain]
  refine processBuiltin_cast ?_ (Value.cast?_text own)
  cases b with
  | string => cases v <;> simp [Value.ownType?] at own
  | _ => rfl

/-- The text of a value gives the value back, but for the sign of a decimal zero. A leap second after any
second but the last of its minute is read as the second that comes next. -/
theorem process_text {v : Value} {b : Builtin} (own : v.ownType? = some b)
    (asText asOwn : FilterBase) :
    (Filter.builtin .string asText none).process v = pure (.string v.text) ∧
      (v.LeapsLast → ∃ w, (Filter.builtin b asOwn none).process (.string v.text) = pure w ∧
        w.equal v = true ∧
        (w = v ∨ ∃ d, v = .decimal d ∧ d.coefficient = 0 ∧
          w = .decimal { d with negative := false })) ∧
      (∀ t, v = .dateTime t →
        (Filter.builtin b asOwn none).process (.string v.text) = pure (.dateTime t.shown)) ∧
      (∀ t, v = .timestamp t → ∃ u : Calendar.Timestamp,
        (Filter.builtin b asOwn none).process (.string v.text) = pure (.timestamp u) ∧
        u.wall = t.wall.shown ∧ u.offset = t.offset) ∧
      ∀ d, v = .date d → ∀ base : FilterBase,
        (Filter.builtin .dateTime base none).process (.string v.text) =
          (Filter.builtin .dateTime base none).process v := by
  have read := process_own own asOwn
  refine ⟨process_string own asText, ?_, ?_, ?_, ?_⟩
  · intro last
    exact ⟨v.recovered, read, Value.recovered_equal own last, Value.recovered_eq last⟩
  · rintro t rfl
    exact read
  · rintro t rfl
    by_cases whole : t.offset % 60 = 0
    · rw [Value.recovered, dif_pos whole] at read
      exact ⟨t.shown whole, read, rfl, rfl⟩
    · rw [Value.ownType?, if_neg whole] at own
      cases own
  · rintro d rfl base
    have midnight : Builtin.dateTime.cast? (.string (Value.date d).text) =
        some (.dateTime ⟨d, .midnight⟩) := by
      rw [Builtin.cast?, Value.text, Builtin.castDateTime?, String.toList_ofList,
        Calendar.moment?_date]
      rfl
    rw [process_plain, process_plain, processBuiltin_cast rfl midnight]
    rfl

def leapSecond : Calendar.Timestamp where
  wall := ⟨⟨-44, 3, 15, by decide, by decide, by decide⟩,
    ⟨23, 59, 59, 1500000000, by decide, by decide, by decide, by decide⟩⟩
  offset := -19800
  offset_lt := by decide
  inRange := by decide

theorem process_text_leapSecond :
    (Value.timestamp leapSecond).ownType? = some .dateTime ∧
      (Filter.builtin .string ⟨"label", .ofType (.tag "string")⟩ none).process
        (.timestamp leapSecond) = pure (.string "-0044-03-15T23:59:60.500-05:30") ∧
      (Filter.builtin .dateTime ⟨"at", .ofType (.tag "date_time")⟩ none).process
        (.string "-0044-03-15T23:59:60.500-05:30") = pure (.timestamp leapSecond) := by
  have own : (Value.timestamp leapSecond).ownType? = some .dateTime := rfl
  have shown : (Value.timestamp leapSecond).text = "-0044-03-15T23:59:60.500-05:30" := by
    decide +kernel
  obtain ⟨written, recovers, -⟩ :=
    process_text own ⟨"label", .ofType (.tag "string")⟩ ⟨"at", .ofType (.tag "date_time")⟩
  obtain ⟨w, read, -, same⟩ := recovers (.inr rfl)
  rcases same with rfl | ⟨d, decimal, -⟩
  · rw [shown] at written read
    exact ⟨own, written, read⟩
  · cases decimal

def earlyLeap : Calendar.DateTime where
  date := ⟨2015, 6, 30, by decide, by decide, by decide⟩
  clock := ⟨20, 19, 23, 1000000000, by decide, by decide, by decide, by decide⟩

/-- The text of the leap second is that of the next second, which it is not equal to. -/
theorem process_text_earlyLeap :
    (Value.dateTime earlyLeap).ownType? = some .dateTime ∧
      (Filter.builtin .string ⟨"label", .ofType (.tag "string")⟩ none).process
        (.dateTime earlyLeap) = pure (.string "2015-06-30T20:19:24") ∧
      (Filter.builtin .dateTime ⟨"at", .ofType (.tag "date_time")⟩ none).process
        (.string "2015-06-30T20:19:24") = pure (.dateTime earlyLeap.shown) ∧
      earlyLeap.shown.clock.second = 24 ∧ earlyLeap.shown.clock.nano = 0 ∧
      (Value.dateTime earlyLeap.shown).equal (.dateTime earlyLeap) = false := by
  have own : (Value.dateTime earlyLeap).ownType? = some .dateTime := rfl
  have shown : (Value.dateTime earlyLeap).text = "2015-06-30T20:19:24" := by
    decide +kernel
  have written := process_string own ⟨"label", .ofType (.tag "string")⟩
  have read := process_own own ⟨"at", .ofType (.tag "date_time")⟩
  rw [shown] at written read
  exact ⟨own, written, read, rfl, rfl, by decide⟩

end Filter

end ArgCheck
