import ArgCheck.Calendar.Printer
import ArgCheck.Calendar.Reader
import ArgCheck.Proofs.Calendar.Scanning
import ArgCheck.Proofs.Text.Separators

set_option autoImplicit false

/-!
# Reading the text of dates and times

The layouts are tried in their order, and the text of a date, of a time without an offset and of a
timestamp each have to come to the layout they were written in. The strict form takes timestamps of
years with four digits and refuses all other texts; those of signed years go on to the first layout
with an offset. No layout with an offset reads a text that has none, and no layout with a time of
day reads a date alone.
-/

namespace ArgCheck.Calendar

open Numeral

variable {rest : List Char}

def Date.fill (d : Date) (fields : Fields) : Fields :=
  { fields with year := some d.year, month := some d.month, day := some d.day }

/-- A leap second follows the last second of its minute. -/
def Clock.LeapsLast (c : Clock) : Prop := c.nano < 1000000000 ∨ c.second = 59

/-- What the text of a time of day shows: in place of a leap second that comes too early, the next second. -/
def Clock.shown (c : Clock) : Clock :=
  if early : 1000000000 ≤ c.nano ∧ c.second < 59 then
    { c with
      second := c.second + 1
      nano := c.nano - 1000000000
      second_lt := by omega
      nano_lt := by have := c.nano_lt; omega }
  else c

theorem Clock.shown_self {c : Clock} (last : c.LeapsLast) : c.shown = c := by
  have second := c.second_lt
  rw [shown, dif_neg]
  rcases last with plain | last <;> omega

def DateTime.shown (t : DateTime) : DateTime := { t with clock := t.clock.shown }

theorem DateTime.shown_self {t : DateTime} (last : t.clock.LeapsLast) : t.shown = t := by
  rw [shown, Clock.shown_self last]

/-- The next second is still in range: the range ends with a whole minute, and so does the offset. -/
theorem Timestamp.inRange_shown {t : Timestamp} (whole : t.offset % 60 = 0) :
    Calendar.inRange (t.wall.shown.seconds - t.offset) = true := by
  have before := t.inRange
  by_cases early : 1000000000 ≤ t.wall.clock.nano ∧ t.wall.clock.second < 59
  · have next : t.wall.shown.seconds = t.wall.seconds + 1 := by
      simp only [DateTime.seconds, DateTime.shown, Clock.shown, dif_pos early, Clock.secondOfDay]
      omega
    rw [next]
    rw [Calendar.inRange, Bool.and_eq_true, decide_eq_true_iff, decide_eq_true_iff] at before ⊢
    simp only [DateTime.seconds, Clock.secondOfDay, minYear, maxYear] at before ⊢
    omega
  · rwa [DateTime.shown, Clock.shown, dif_neg early]

def Timestamp.shown (t : Timestamp) (whole : t.offset % 60 = 0) : Timestamp :=
  { t with wall := t.wall.shown, inRange := t.inRange_shown whole }

theorem Timestamp.shown_self {t : Timestamp} (whole : t.offset % 60 = 0)
    (last : t.wall.clock.LeapsLast) : t.shown whole = t := by
  obtain ⟨wall, offset, offset_lt, inRange⟩ := t
  simp only [shown, DateTime.shown_self last]

/-- The fields that the text of a time of day fills: a leap second at the end is the second 60. -/
def Clock.fill (c : Clock) (fields : Fields) : Fields :=
  let nano := c.nano % 1000000000
  { fields with
    hour := some c.hour
    minute := some c.minute
    second := some (c.second + c.nano / 1000000000)
    nano := if nano = 0 then none else some nano }

theorem Date.date?_fill (d : Date) (fields : Fields) : (d.fill fields).date? = some d :=
  d.make?_self

theorem Clock.clock?_fill (c : Clock) (fields : Fields) :
    (c.fill fields).clock? = some c.shown := by
  have nano : (if c.nano % 1000000000 = 0 then none
      else some (c.nano % 1000000000)).getD 0 = c.nano % 1000000000 := by
    by_cases zero : c.nano % 1000000000 = 0 <;> simp [zero]
  have second := c.second_lt
  have range := c.nano_lt
  simp only [Fields.clock?, fill, Option.getD_some, nano, Option.bind_eq_bind, Option.bind_some]
  by_cases plain : c.nano < 1000000000
  · have whole : c.nano / 1000000000 = 0 := by omega
    have kept : c.nano % 1000000000 = c.nano := by omega
    rw [whole, kept, Nat.add_zero, if_neg (by omega), c.make?_self, shown_self (.inl plain)]
  · have one : c.nano / 1000000000 = 1 := by omega
    by_cases last : c.second = 59
    · have kept : 1000000000 + c.nano % 1000000000 = c.nano := by omega
      rw [one, if_pos (by omega), kept, shown_self (.inr last), ← last, c.make?_self]
    · have early : 1000000000 ≤ c.nano ∧ c.second < 59 := by omega
      have kept : c.nano % 1000000000 = c.nano - 1000000000 := by omega
      rw [one, if_neg (by omega), kept, shown, dif_pos early]
      exact Clock.make?_self { c with
        second := c.second + 1
        nano := c.nano - 1000000000
        second_lt := by omega
        nano_lt := by omega }

theorem dateTime?_fill (t : DateTime) (fields : Fields) :
    (t.clock.fill (t.date.fill fields)).dateTime? = some t.shown := by
  have date : (t.clock.fill (t.date.fill fields)).date? = some t.date := t.date.date?_fill fields
  simp only [Fields.dateTime?, date, t.clock.clock?_fill, Option.bind_eq_bind, Option.bind_some]
  rfl

theorem timestamp?_fill {t : Timestamp} (whole : t.offset % 60 = 0) (fields : Fields) :
    ({ t.wall.clock.fill (t.wall.date.fill fields) with
      offset := some t.offset } : Fields).timestamp? = some (t.shown whole) := by
  have wall : ({ t.wall.clock.fill (t.wall.date.fill fields) with
      offset := some t.offset } : Fields).dateTime? = some t.wall.shown := dateTime?_fill t.wall fields
  simp only [Fields.timestamp?, wall, Option.bind_eq_bind, Option.bind_some]
  exact (t.shown whole).make?_self

theorem Date.month_lt (d : Date) : d.month < 100 := by
  have := d.month_mem
  omega

theorem Date.day_lt (d : Date) : d.day < 100 := by
  have bound : daysInMonth d.year d.month ≤ 31 := by
    unfold daysInMonth
    split
    · split <;> decide
    · split <;> decide
  have := d.day_mem
  omega

theorem Clock.second_lt_hundred (c : Clock) : c.second + c.nano / 1000000000 < 100 := by
  have second := c.second_lt
  have range := c.nano_lt
  omega

/-! ### Layouts along the text they were written for -/

def Layout.ended : Fields × List Char → Option Fields
  | (fields, []) => some fields
  | _ => none

theorem Layout.read_eq (layout : Layout) (text : List Char) :
    layout.read text = (layout.readFrom {} text).bind ended := by
  unfold read
  cases layout.readFrom {} text with
  | none => rfl
  | some result =>
    obtain ⟨fields, rest⟩ := result
    cases rest <;> rfl

theorem Layout.readFrom_append (first second : Layout) (fields : Fields) (text : List Char) :
    Layout.readFrom fields (first ++ second) text =
      (first.readFrom fields text).bind fun result => second.readFrom result.1 result.2 := by
  induction first generalizing fields text with
  | nil => rfl
  | cons item first ih =>
    simp only [List.cons_append, Layout.readFrom, Option.bind_eq_bind]
    cases item.read fields text with
    | none => rfl
    | some result => exact ih result.1 result.2

theorem Layout.readFrom_char (c : Char) (layout : Layout) (fields : Fields) (rest : List Char) :
    Layout.readFrom fields (.char c :: layout) (c :: rest) = layout.readFrom fields rest := by
  simp only [readFrom, Item.read, if_true, Option.bind_eq_bind, Option.bind_some]

theorem Date.text_append (d : Date) (rest : List Char) :
    d.text ++ rest =
      yearText d.year ++ ('-' :: (padded 2 d.month ++ ('-' :: (padded 2 d.day ++ rest)))) := by
  simp only [text, List.append_assoc, List.cons_append, List.nil_append]

theorem Clock.text_append (c : Clock) (rest : List Char) :
    c.text ++ rest = padded 2 c.hour ++ (':' :: (padded 2 c.minute ++ (':' ::
      (padded 2 (c.second + c.nano / 1000000000) ++
        (fractionText (c.nano % 1000000000) ++ rest))))) := by
  simp only [text, List.append_assoc, List.cons_append, List.nil_append]

theorem takeYear_date (d : Date) (rest : List Char) :
    takeYear (d.text ++ rest) =
      some (d.year, '-' :: (padded 2 d.month ++ ('-' :: (padded 2 d.day ++ rest)))) := by
  rw [d.text_append, takeYear_text d.year (stops_cons (by decide) _)]

theorem dashedDate_text (d : Date) (fields : Fields) (rest : List Char) :
    dashedDate.readFrom fields (d.text ++ rest) = some (d.fill fields, rest) := by
  simp only [dashedDate, Layout.readFrom, Item.read, takeYear_date,
    takeTwoDigits_padded d.month_lt, takeTwoDigits_padded d.day_lt, Option.map_some, if_true,
    Option.bind_eq_bind, Option.bind_some, Date.fill]

theorem read_dashedDate (d : Date) (layout : Layout) (rest : List Char) :
    Layout.read (dashedDate ++ layout) (d.text ++ rest) =
      (layout.readFrom (d.fill {}) rest).bind Layout.ended := by
  rw [Layout.read_eq, Layout.readFrom_append, dashedDate_text, Option.bind_some]

theorem hourMinute_text (c : Clock) (fields : Fields) (rest : List Char) :
    hourMinute.readFrom fields (padded 2 c.hour ++ (':' :: (padded 2 c.minute ++ rest))) =
      some ({ fields with hour := some c.hour, minute := some c.minute }, rest) := by
  have hour : c.hour < 100 := Nat.lt_trans c.hour_lt (by decide)
  have minute : c.minute < 100 := Nat.lt_trans c.minute_lt (by decide)
  simp only [hourMinute, Layout.readFrom, Item.read, takeTwoDigits_padded hour,
    takeTwoDigits_padded minute, Option.map_some, if_true, Option.bind_eq_bind, Option.bind_some]

theorem fractionalSeconds_text (c : Clock) (fields : Fields) (ends : EndsNumber rest) :
    fractionalSeconds.readFrom fields (c.text ++ rest) = some (c.fill fields, rest) := by
  have nano : c.nano % 1000000000 < 1000000000 := Nat.mod_lt _ (by decide)
  rw [c.text_append, fractionalSeconds, wholeSeconds, List.append_assoc, Layout.readFrom_append,
    hourMinute_text]
  simp only [List.cons_append, List.nil_append, Layout.readFrom, Item.read,
    takeTwoDigits_padded c.second_lt_hundred, takeFraction_text nano ends, Option.map_some, if_true,
    Option.bind_eq_bind, Option.bind_some, Clock.fill]

theorem offset_text {offset : Int} (whole : offset % 60 = 0) (small : offset.natAbs < 86400)
    (fields : Fields) (rest : List Char) :
    Layout.readFrom fields [.offset] (offsetText offset ++ rest) =
      some ({ fields with offset := some offset }, rest) := by
  have sign : Text.skipBlanks (offsetText offset ++ rest) = offsetText offset ++ rest := by
    refine Text.skipBlanks_cons ?_ _
    unfold Calendar.sign
    split <;> decide
  have colon : ∀ n, n < 100 → ∀ rest,
      some (skipColons (':' :: padded 2 n ++ rest)) = some (padded 2 n ++ rest) := by
    intro n _ rest
    rw [skipColons_colon]
  have read : takeOffset (fun rest => some (skipColons rest)) (offsetText offset ++ rest) =
      some (offset, rest) := takeOffset_text colon whole small rest
  simp only [Layout.readFrom, Item.read, sign, read, Option.map_some, Option.bind_eq_bind,
    Option.bind_some]

theorem endsNumber_offsetText (offset : Int) : EndsNumber (offsetText offset) := by
  intro c rest h
  have first : c = sign offset := (List.cons.inj h).1.symm
  rw [first, sign]
  split <;> decide

/-! ### Timestamps -/

theorem exactNumber_short {year : Int} (short : 0 ≤ year ∧ year ≤ 9999) (rest : List Char) :
    exactNumber 4 (yearText year ++ rest) = some (year.toNat, rest) := by
  have small : year.toNat < Nat.pow 10 4 := by
    change year.toNat < 10000
    omega
  rw [yearText, if_pos short, exactNumber_padded (by decide) small]

theorem exactNumber_long {year : Int} (long : ¬ (0 ≤ year ∧ year ≤ 9999)) (rest : List Char) :
    exactNumber 4 (yearText year ++ rest) = none := by
  have sign : (if year < 0 then '-' else '+').isDigit = false := by
    split <;> decide
  rw [yearText, if_neg long, List.cons_append, exactNumber]
  simp [sign]

theorem strict?_long {d : Date} (long : ¬ (0 ≤ d.year ∧ d.year ≤ 9999)) (rest : List Char) :
    strict? (d.text ++ rest) = none := by
  rw [d.text_append, strict?, exactNumber_long long]
  rfl

theorem strict?_time {d : Date} (short : 0 ≤ d.year ∧ d.year ≤ 9999) (c : Clock)
    (ends : EndsNumber rest) :
    strict? (d.text ++ 'T' :: (c.text ++ rest)) = (strictOffset rest).bind fun (offset, text) =>
      if text.isEmpty then
        ({ c.fill (d.fill {}) with offset := some offset } : Fields).timestamp?
      else none := by
  have value : (d.year.toNat : Int) = d.year := by omega
  have hour : c.hour < Nat.pow 10 2 := Nat.lt_trans c.hour_lt (by decide)
  have minute : c.minute < Nat.pow 10 2 := Nat.lt_trans c.minute_lt (by decide)
  have nano : c.nano % 1000000000 < 1000000000 := Nat.mod_lt _ (by decide)
  have wide : 0 < 2 := by decide
  rw [d.text_append, c.text_append, strict?]
  simp only [exactNumber_short short, exactNumber_padded wide d.month_lt,
    exactNumber_padded wide d.day_lt, exactNumber_padded wide hour, exactNumber_padded wide minute,
    exactNumber_padded wide c.second_lt_hundred, takeFraction_text nano ends, takeChar,
    Option.bind_eq_bind, Option.bind_some, beq_self_eq_true, Bool.true_or, if_true, value]
  rfl

theorem strict?_date (d : Date) : strict? d.text = none := by
  rw [← List.append_nil d.text]
  by_cases short : 0 ≤ d.year ∧ d.year ≤ 9999
  · have wide : 0 < 2 := by decide
    rw [d.text_append, strict?]
    simp only [exactNumber_short short, exactNumber_padded wide d.month_lt,
      exactNumber_padded wide d.day_lt, takeChar, Option.bind_eq_bind, Option.bind_some,
      beq_self_eq_true, if_true, Option.bind_none]
  · exact strict?_long short []

theorem strictOffset_text {offset : Int} (whole : offset % 60 = 0) (small : offset.natAbs < 86400) :
    strictOffset (offsetText offset) = some (offset, []) := by
  have colon : ∀ n, n < 100 → ∀ rest,
      takeChar (· == ':') (':' :: padded 2 n ++ rest) = some (padded 2 n ++ rest) :=
    fun _ _ _ => rfl
  have read := takeOffset_text colon whole small []
  rw [List.append_nil] at read
  have sign : sign offset ≠ 'Z' ∧ sign offset ≠ 'z' := by
    unfold Calendar.sign
    split <;> decide
  unfold strictOffset
  split
  · rename_i h
    exact absurd (List.cons.inj h).1 sign.1
  · rename_i h
    exact absurd (List.cons.inj h).1 sign.2
  · exact read

theorem offsetTime?_text {t : Timestamp} (whole : t.offset % 60 = 0) :
    offsetTime? t.text = some (t.shown whole) := by
  have text : t.text = t.wall.date.text ++ 'T' :: (t.wall.clock.text ++ offsetText t.offset) := by
    simp only [Timestamp.text, DateTime.text, List.append_assoc, List.cons_append, List.nil_append]
  by_cases short : 0 ≤ t.wall.date.year ∧ t.wall.date.year ≤ 9999
  · have strict : strict? t.text = some (t.shown whole) := by
      rw [text, strict?_time short _ (endsNumber_offsetText t.offset),
        strictOffset_text whole t.offset_lt]
      exact timestamp?_fill whole {}
    rw [offsetTime?, strict, Option.some_or]
  · have strict : strict? t.text = none := by
      rw [text, strict?_long short]
    have seconds := fractionalSeconds_text t.wall.clock (t.wall.date.fill {})
      (endsNumber_offsetText t.offset)
    have offset := offset_text whole t.offset_lt (t.wall.clock.fill (t.wall.date.fill {})) []
    rw [List.append_nil] at offset
    have read : Layout.read (dashedDate ++ [.char 'T'] ++ fractionalSeconds ++ [.offset]) t.text =
        some { t.wall.clock.fill (t.wall.date.fill {}) with offset := some t.offset } := by
      rw [text, List.append_assoc, List.append_assoc, read_dashedDate]
      simp only [List.cons_append, List.nil_append, Layout.readFrom_char, Layout.readFrom_append,
        seconds, Option.bind_some, offset, Layout.ended]
    rw [offsetTime?, strict, Option.none_or, offsetLayouts, List.findSome?_cons, read]
    simp only [Option.bind_some, timestamp?_fill whole {}]

/-! ### Texts without an offset -/

theorem DateTime.text_eq (t : DateTime) : t.text = t.date.text ++ 'T' :: t.clock.text := by
  simp only [text, List.append_assoc, List.cons_append, List.nil_append]

theorem offsetTime?_dateTime (t : DateTime) : offsetTime? t.text = none := by
  have seconds := fractionalSeconds_text t.clock (t.date.fill {}) endsNumber_nil
  have minutes := t.clock.text_append []
  rw [List.append_nil] at seconds minutes
  have strict : strict? t.text = none := by
    rw [t.text_eq]
    by_cases short : 0 ≤ t.date.year ∧ t.date.year ≤ 9999
    · have read := strict?_time short t.clock endsNumber_nil
      rwa [List.append_nil] at read
    · exact strict?_long short _
  rw [offsetTime?, strict, Option.none_or, List.findSome?_eq_none_iff]
  intro layout member
  simp only [offsetLayouts, List.mem_cons, List.not_mem_nil, or_false] at member
  rw [t.text_eq]
  rcases member with rfl | rfl | rfl | rfl
  · -- all of the text is read when the offset should begin
    rw [List.append_assoc, List.append_assoc, read_dashedDate]
    simp only [List.cons_append, List.nil_append, Layout.readFrom_char, Layout.readFrom_append,
      seconds, Option.bind_some]
    rfl
  · rw [List.append_assoc, List.append_assoc, read_dashedDate]
    rfl
  · rw [List.append_assoc, List.append_assoc, read_dashedDate]
    rfl
  · -- the seconds stand where the offset should begin
    rw [List.append_assoc, List.append_assoc, read_dashedDate]
    simp only [List.cons_append, List.nil_append, Layout.readFrom_char, Layout.readFrom_append,
      minutes, hourMinute_text, Option.bind_some]
    rfl

theorem localTime?_text (t : DateTime) : localTime? t.text = some t.shown := by
  have seconds := fractionalSeconds_text t.clock (t.date.fill {}) endsNumber_nil
  rw [List.append_nil] at seconds
  have read : Layout.read (dashedDate ++ [.char 'T'] ++ fractionalSeconds) t.text =
      some (t.clock.fill (t.date.fill {})) := by
    rw [t.text_eq, List.append_assoc, read_dashedDate]
    simp only [List.cons_append, List.nil_append, Layout.readFrom_char, seconds, Option.bind_some,
      Layout.ended]
  rw [localTime?, localLayouts, List.findSome?_cons, read]
  simp only [Option.bind_some, dateTime?_fill]

theorem offsetTime?_date (d : Date) : offsetTime? d.text = none := by
  rw [offsetTime?, strict?_date, Option.none_or, List.findSome?_eq_none_iff]
  intro layout member
  simp only [offsetLayouts, List.mem_cons, List.not_mem_nil, or_false] at member
  rw [← List.append_nil d.text]
  rcases member with rfl | rfl | rfl | rfl
  all_goals
    rw [List.append_assoc, List.append_assoc, read_dashedDate]
    rfl

theorem slashedDate_text (d : Date) (layout : Layout) :
    Layout.read (slashedDate ++ layout) d.text = none := by
  rw [← List.append_nil d.text, Layout.read_eq]
  simp only [slashedDate, List.cons_append, Layout.readFrom, Item.read, takeYear_date,
    Option.map_some, Option.bind_eq_bind, Option.bind_some]
  rfl

theorem localTime?_date (d : Date) : localTime? d.text = none := by
  have slashed := slashedDate_text d ([.blank] ++ wholeSeconds)
  rw [localTime?, List.findSome?_eq_none_iff]
  intro layout member
  simp only [localLayouts, List.mem_cons, List.not_mem_nil, or_false] at member
  rw [← List.append_nil d.text]
  rcases member with rfl | rfl | rfl | rfl | rfl
  · rw [List.append_assoc, read_dashedDate]
    rfl
  · rw [List.append_assoc, read_dashedDate]
    rfl
  · rw [List.append_assoc, read_dashedDate]
    rfl
  · rw [List.append_assoc, read_dashedDate]
    rfl
  · rw [List.append_nil, List.append_assoc, slashed, Option.bind_none]

theorem dateOnly?_text (d : Date) : dateOnly? d.text = some d := by
  have read := read_dashedDate d [] []
  rw [List.append_nil, List.append_nil] at read
  rw [dateOnly?, dateLayouts, List.findSome?_cons, read]
  simp only [Layout.readFrom, Option.bind_some, Layout.ended, Date.date?_fill]

/-! ### No blanks -/

theorem solid_yearText (year : Int) : Text.Solid (yearText year) := by
  unfold yearText
  split
  · exact solid_padded 4 year.toNat
  · have sign : Text.isBlank (if year < 0 then '-' else '+') = false := by
      split <;> decide
    exact (solid_padded 4 year.natAbs).cons sign

theorem solid_fractionText (nano : Nat) : Text.Solid (fractionText nano) := by
  have point : ∀ width n, Text.Solid ('.' :: padded width n) :=
    fun width n => (solid_padded width n).cons (by decide)
  unfold fractionText
  split
  · exact Text.solid_nil
  · split
    · exact point 3 _
    · split
      · exact point 6 _
      · exact point 9 _

theorem Date.solid_text (d : Date) : Text.Solid d.text := by
  have dash : Text.Solid ['-'] := Text.solid_nil.cons (by decide)
  exact ((((solid_yearText d.year).append dash).append (solid_padded 2 _)).append dash).append
    (solid_padded 2 _)

theorem Clock.solid_text (c : Clock) : Text.Solid c.text := by
  have colon : Text.Solid [':'] := Text.solid_nil.cons (by decide)
  exact (((((solid_padded 2 _).append colon).append (solid_padded 2 _)).append colon).append
    (solid_padded 2 _)).append (solid_fractionText _)

theorem DateTime.solid_text (t : DateTime) : Text.Solid t.text := by
  have letter : Text.Solid ['T'] := Text.solid_nil.cons (by decide)
  exact (t.date.solid_text.append letter).append t.clock.solid_text

theorem solid_offsetText (offset : Int) : Text.Solid (offsetText offset) := by
  have colon : Text.Solid [':'] := Text.solid_nil.cons (by decide)
  have sign : Text.Solid [sign offset] := by
    refine Text.solid_nil.cons ?_
    unfold Calendar.sign
    split <;> decide
  exact ((sign.append (solid_padded 2 _)).append colon).append (solid_padded 2 _)

/-! ### Dates and times read again -/

theorem date?_text (d : Date) : date? d.text = some d := by
  rw [date?, d.solid_text.trim_self, dateOnly?_text, Option.some_or]

theorem moment?_date (d : Date) : moment? d.text = some (.dateTime ⟨d, .midnight⟩) := by
  rw [moment?, d.solid_text.trim_self, offsetTime?_date, localTime?_date, dateOnly?_text]
  rfl

theorem moment?_dateTime (t : DateTime) : moment? t.text = some (.dateTime t.shown) := by
  rw [moment?, t.solid_text.trim_self, offsetTime?_dateTime, localTime?_text]
  rfl

theorem moment?_timestamp {t : Timestamp} (whole : t.offset % 60 = 0) :
    moment? t.text = some (.timestamp (t.shown whole)) := by
  have solid : Text.Solid t.text := t.wall.solid_text.append (solid_offsetText t.offset)
  rw [moment?, solid.trim_self, offsetTime?_text whole]
  rfl

end ArgCheck.Calendar
