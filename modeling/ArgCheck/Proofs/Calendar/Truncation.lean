import ArgCheck.Filter.Basic
import ArgCheck.Proofs.Text.Separators

set_option autoImplicit false

/-!
# Dates as truncated times

No layout of a date reads a colon, and every layout of a time has to read one. So a text has either
layouts of dates or layouts of times, and it does not matter which are tried first: a text is read as
a date exactly if it is read as a time, and the date is the one of that time
(`date?_eq_map_date`, `process_date_text`).
-/

namespace ArgCheck

namespace Text

variable {text : List Char}

theorem skipBlanks_skipBlanks (text : List Char) : skipBlanks (skipBlanks text) = skipBlanks text := by
  cases h : skipBlanks text with
  | nil => rfl
  | cons c rest => exact skipBlanks_cons (head_skipBlanks h) rest

/-- What is cut off at the end leaves the first character where it is. -/
theorem skipBlanks_trim (text : List Char) : skipBlanks (trim text) = trim text := by
  cases h : trim text with
  | nil => rfl
  | cons c rest =>
    obtain ⟨blanks, cut⟩ : ∃ blanks, skipBlanks text = trim text ++ blanks := by
      have dropped : skipBlanks (skipBlanks text).reverse <:+ (skipBlanks text).reverse :=
        List.dropWhile_suffix isBlank
      obtain ⟨front, split⟩ := List.reverse_prefix.mpr dropped
      exact ⟨front, by rw [trim, split, List.reverse_reverse]⟩
    rw [h, List.cons_append] at cut
    exact skipBlanks_cons (head_skipBlanks cut) rest

theorem trim_trim (text : List Char) : trim (trim text) = trim text := by
  have again : trim (trim text) = (skipBlanks (trim text).reverse).reverse := by
    rw [trim, skipBlanks_trim]
  rw [again, trim, List.reverse_reverse, skipBlanks_skipBlanks]

end Text

namespace Calendar

variable {text rest : List Char} {fields : Fields}

/-! ### Readers that leave colons where they are -/

/-- However the value is used, the rest of the text is the one that its reader left. -/
theorem exists_of_map {α β : Type} {taken : Option (α × List Char)}
    {use : α × List Char → β × List Char} {b : β} (read : taken.map use = some (b, rest))
    (left : ∀ pair, (use pair).2 = pair.2) : ∃ a, taken = some (a, rest) := by
  obtain ⟨⟨a, after⟩, found, same⟩ := Option.map_eq_some_iff.mp read
  have kept : rest = after := by
    have left := left (a, after)
    rwa [same] at left
  exact ⟨a, by rw [found, kept]⟩

theorem colon_append {front : List Char} (free : ':' ∉ front) (rest : List Char) :
    ':' ∈ rest ↔ ':' ∈ front ++ rest := by
  simp only [List.mem_append, free, false_or]

theorem colon_notMem_digits (text : List Char) : ':' ∉ text.takeWhile Char.isDigit := by
  intro member
  have digit := List.all_eq_true.mp List.all_takeWhile _ member
  exact absurd digit (by decide)

theorem takeNumber_colon {most n : Nat} (read : takeNumber most text = some (n, rest)) :
    ':' ∈ rest ↔ ':' ∈ text := by
  simp only [takeNumber] at read
  split at read
  · cases read
  · cases read
    have front : (text.take most).takeWhile Char.isDigit <+: text :=
      (List.takeWhile_prefix _).trans (List.take_prefix most text)
    have whole := List.prefix_iff_eq_append.mp front
    have passed := colon_append (colon_notMem_digits (text.take most))
      (text.drop ((text.take most).takeWhile Char.isDigit).length)
    rwa [whole] at passed

theorem skipBlanks_colon (text : List Char) : ':' ∈ Text.skipBlanks text ↔ ':' ∈ text :=
  Text.mem_skipBlanks_iff (by decide) text

theorem takeTwoDigits_colon {n : Nat} (read : takeTwoDigits text = some (n, rest)) :
    ':' ∈ rest ↔ ':' ∈ text :=
  (takeNumber_colon read).trans (skipBlanks_colon text)

theorem takeYear_colon {year : Int} (read : takeYear text = some (year, rest)) :
    ':' ∈ rest ↔ ':' ∈ text := by
  rw [← skipBlanks_colon text]
  unfold takeYear at read
  split at read
  · rename_i signed shown
    obtain ⟨n, number⟩ := exists_of_map read fun _ => rfl
    rw [takeNumber_colon number, shown]
    simp
  · rename_i signed shown
    obtain ⟨n, number⟩ := exists_of_map read fun _ => rfl
    rw [takeNumber_colon number, shown]
    simp
  · obtain ⟨n, number⟩ := exists_of_map read fun _ => rfl
    exact takeNumber_colon number

theorem takeNanos_colon {n : Nat} (read : takeNanos text = some (n, rest)) :
    ':' ∈ rest ↔ ':' ∈ text := by
  simp only [takeNanos] at read
  split at read
  · cases read
  · cases read
    have whole := List.prefix_iff_eq_append.mp (List.takeWhile_prefix (l := text) Char.isDigit)
    have passed := colon_append (colon_notMem_digits text)
      (text.drop (text.takeWhile Char.isDigit).length)
    rwa [whole] at passed

theorem takeFraction_colon {nano : Option Nat} (read : takeFraction text = some (nano, rest)) :
    ':' ∈ rest ↔ ':' ∈ text := by
  unfold takeFraction at read
  split at read
  · obtain ⟨n, number⟩ := exists_of_map read fun _ => rfl
    rw [takeNanos_colon number]
    simp
  · cases read
    rfl

/-- Letters in place of the text's first characters. -/
theorem drop_colon {word : List Char} (letters : ':' ∉ word) {count : Nat}
    (same : (text.take count).map Char.toLower = word) :
    ':' ∈ text.drop count ↔ ':' ∈ text := by
  have front : ':' ∉ text.take count := by
    intro member
    have lower : Char.toLower ':' ∈ (text.take count).map Char.toLower :=
      List.mem_map_of_mem member
    rw [same] at lower
    exact letters lower
  have passed := colon_append front (text.drop count)
  rwa [List.take_append_drop] at passed

theorem takeShortMonth_colon {month : Nat} (read : takeShortMonth text = some (month, rest)) :
    ':' ∈ rest ↔ ':' ∈ text := by
  have letters : ∀ name ∈ shortMonths, ':' ∉ name := by decide
  unfold takeShortMonth at read
  split at read
  · rename_i index found
    cases read
    obtain ⟨inside, same, -⟩ := List.findIdx?_eq_some_iff_getElem.mp found
    exact drop_colon (letters _ (List.getElem_mem inside)) (beq_iff_eq.mp same)
  · cases read

theorem takeLongMonth_colon {month : Nat} (read : takeLongMonth text = some (month, rest)) :
    ':' ∈ rest ↔ ':' ∈ text := by
  obtain ⟨⟨found, after⟩, short, ended⟩ := Option.bind_eq_some_iff.mp read
  cases ended
  rw [← takeShortMonth_colon short]
  have letters : ':' ∉ (monthEndings[month - 1]?).getD [] := by
    have all : ∀ ending ∈ monthEndings, ':' ∉ ending := by decide
    cases entry : monthEndings[month - 1]? with
    | none => exact List.not_mem_nil
    | some ending => exact all ending (List.mem_of_getElem? entry)
  unfold dropWord
  split
  · rename_i same
    exact drop_colon letters same
  · rfl

/-! ### Layouts -/

def Item.isPlain : Item → Bool
  | .offset => false
  | .char c => c != ':'
  | _ => true

theorem Item.read_char {c : Char} {filled : Fields}
    (read : Item.read (.char c) fields text = some (filled, rest)) : text = c :: rest := by
  cases text with
  | nil => cases read
  | cons d after =>
    simp only [Item.read] at read
    split at read
    · rename_i same
      cases read
      rw [same]
    · cases read

theorem Item.read_colon {item : Item} (plain : item.isPlain = true) {filled : Fields}
    (read : item.read fields text = some (filled, rest)) : ':' ∈ rest ↔ ':' ∈ text := by
  cases item with
  | offset => cases plain
  | blank =>
    cases read
    exact skipBlanks_colon text
  | char c =>
    have other : ':' ≠ c := by
      rintro rfl
      cases plain
    rw [Item.read_char read, List.mem_cons, or_iff_right other]
  | year =>
    obtain ⟨n, number⟩ := exists_of_map read fun _ => rfl
    exact takeYear_colon number
  | fraction =>
    obtain ⟨n, number⟩ := exists_of_map read fun _ => rfl
    exact takeFraction_colon number
  | shortMonth =>
    obtain ⟨n, number⟩ := exists_of_map read fun _ => rfl
    exact takeShortMonth_colon number
  | longMonth =>
    obtain ⟨n, number⟩ := exists_of_map read fun _ => rfl
    exact takeLongMonth_colon number
  | month | day | hour | minute | second =>
    obtain ⟨n, number⟩ := exists_of_map read fun _ => rfl
    exact takeTwoDigits_colon number

theorem Layout.readFrom_colon {layout : Layout} (plain : layout.all Item.isPlain = true)
    {filled : Fields} (read : layout.readFrom fields text = some (filled, rest)) :
    ':' ∈ rest ↔ ':' ∈ text := by
  induction layout generalizing fields text with
  | nil =>
    cases read
    rfl
  | cons item layout ih =>
    simp only [List.all_cons, Bool.and_eq_true] at plain
    obtain ⟨⟨next, after⟩, first, others⟩ := Option.bind_eq_some_iff.mp read
    exact (ih plain.2 others).trans (Item.read_colon plain.1 first)

theorem Layout.notMem_of_read {layout : Layout} (plain : layout.all Item.isPlain = true)
    (read : layout.read text = some fields) : ':' ∉ text := by
  unfold Layout.read at read
  split at read
  · rename_i whole
    rw [← readFrom_colon plain whole]
    exact List.not_mem_nil
  · cases read

/-- The colon comes before anything that may stand in its place. -/
def Layout.NeedsColon (layout : Layout) : Prop :=
  layout.find? (fun item => !item.isPlain) = some (.char ':')

theorem Layout.NeedsColon.mem_of_readFrom {layout : Layout} (needs : layout.NeedsColon)
    {result : Fields × List Char} (read : layout.readFrom fields text = some result) :
    ':' ∈ text := by
  induction layout generalizing fields text with
  | nil => cases needs
  | cons item layout ih =>
    obtain ⟨⟨next, after⟩, first, others⟩ := Option.bind_eq_some_iff.mp read
    cases plain : item.isPlain with
    | true =>
      have later : Layout.NeedsColon layout := by
        rwa [NeedsColon, List.find?_cons_of_neg (by simp [plain])] at needs
      exact (Item.read_colon plain first).mp (ih later others)
    | false =>
      rw [NeedsColon, List.find?_cons_of_pos (by simp [plain])] at needs
      cases needs
      rw [Item.read_char first]
      exact List.mem_cons_self

theorem Layout.NeedsColon.read_eq_none {layout : Layout} (needs : layout.NeedsColon)
    (free : ':' ∉ text) : layout.read text = none := by
  unfold Layout.read
  split
  · rename_i whole
    exact absurd (needs.mem_of_readFrom whole) free
  · rfl

theorem needsColon_times : ∀ layout ∈ offsetLayouts ++ localLayouts, layout.NeedsColon := by
  unfold Layout.NeedsColon
  decide

theorem dateOnly?_eq_none (colon : ':' ∈ text) : dateOnly? text = none := by
  have plain : ∀ layout ∈ dateLayouts, layout.all Item.isPlain = true := by decide
  rw [dateOnly?, List.findSome?_eq_none_iff]
  intro layout listed
  cases read : layout.read text with
  | none => rfl
  | some fields => exact absurd colon (Layout.notMem_of_read (plain layout listed) read)

theorem localTime?_eq_none (free : ':' ∉ text) : localTime? text = none := by
  rw [localTime?, List.findSome?_eq_none_iff]
  intro layout listed
  rw [(needsColon_times layout (List.mem_append_right _ listed)).read_eq_none free]
  rfl

/-! ### The strict form -/

theorem exactNumber_suffix {width n : Nat} (read : exactNumber width text = some (n, rest)) :
    rest <:+ text := by
  simp only [exactNumber] at read
  split at read
  · cases read
    exact List.drop_suffix width text
  · cases read

theorem takeChar_suffix {allowed : Char → Bool} (read : takeChar allowed text = some rest) :
    rest <:+ text := by
  unfold takeChar at read
  split at read
  · split at read
    · cases read
      exact List.suffix_cons _ _
    · cases read
  · cases read

theorem takeChar_colon (read : takeChar (· == ':') text = some rest) : ':' ∈ text := by
  unfold takeChar at read
  split at read
  · split at read
    · rename_i same
      simp [beq_iff_eq.mp same]
    · cases read
  · cases read

/-- The first colon stands after the hour. -/
theorem colon_mem_of_strict? {t : Timestamp} (read : strict? text = some t) : ':' ∈ text := by
  obtain ⟨⟨year, afterYear⟩, hyear, read⟩ := Option.bind_eq_some_iff.mp read
  obtain ⟨toMonth, dash, read⟩ := Option.bind_eq_some_iff.mp read
  obtain ⟨⟨month, afterMonth⟩, hmonth, read⟩ := Option.bind_eq_some_iff.mp read
  obtain ⟨toDay, second, read⟩ := Option.bind_eq_some_iff.mp read
  obtain ⟨⟨day, afterDay⟩, hday, read⟩ := Option.bind_eq_some_iff.mp read
  obtain ⟨toHour, mark, read⟩ := Option.bind_eq_some_iff.mp read
  obtain ⟨⟨hour, afterHour⟩, hhour, read⟩ := Option.bind_eq_some_iff.mp read
  obtain ⟨toMinute, colon, -⟩ := Option.bind_eq_some_iff.mp read
  have date : afterDay <:+ text :=
    (exactNumber_suffix hday).trans ((takeChar_suffix second).trans
      ((exactNumber_suffix hmonth).trans ((takeChar_suffix dash).trans (exactNumber_suffix hyear))))
  have time : afterHour <:+ text :=
    (exactNumber_suffix hhour).trans ((takeChar_suffix mark).trans date)
  exact time.subset (takeChar_colon colon)

theorem offsetTime?_eq_none (free : ':' ∉ text) : offsetTime? text = none := by
  have strict : strict? text = none := by
    cases read : strict? text with
    | none => rfl
    | some t => exact absurd (colon_mem_of_strict? read) free
  rw [offsetTime?, strict, Option.none_or, List.findSome?_eq_none_iff]
  intro layout listed
  rw [(needsColon_times layout (List.mem_append_left _ listed)).read_eq_none free]
  rfl

/-! ### Dates and times -/

theorem moment?_trim (text : List Char) : moment? (Text.trim text) = moment? text := by
  simp only [moment?, Text.trim_trim]

/-- Without a colon only the date can be read. -/
theorem moment?_of_notMem (free : ':' ∉ Text.trim text) :
    moment? text = (dateOnly? (Text.trim text)).map fun date => .dateTime ⟨date, .midnight⟩ := by
  simp only [moment?, offsetTime?_eq_none free, localTime?_eq_none free, Option.map_none,
    Option.none_or]

theorem date?_eq_map_date (text : List Char) : date? text = (moment? text).map Moment.date := by
  simp only [date?, moment?_trim]
  by_cases colon : ':' ∈ Text.trim text
  · rw [dateOnly?_eq_none colon, Option.none_or]
  · rw [moment?_of_notMem colon]
    cases dateOnly? (Text.trim text) <;> rfl

end Calendar

namespace Filter

theorem process_date_string (base : FilterBase) (s : String) :
    (Filter.builtin .date base none).process (.string s) =
      match Calendar.date? s.toList with
      | some d => pure (.date d)
      | none => .fail (.argumentType base.name Builtin.date.name) := by
  change castBuiltin .date base (.string s) = _
  simp only [castBuiltin, Builtin.cast?, Builtin.castDate?]
  cases Calendar.date? s.toList <;> rfl

theorem process_dateTime_string (base : FilterBase) (s : String) :
    (Filter.builtin .dateTime base none).process (.string s) =
      match Calendar.moment? s.toList with
      | some m => pure (Builtin.ofMoment m)
      | none => .fail (.argumentType base.name Builtin.dateTime.name) := by
  change castBuiltin .dateTime base (.string s) = _
  simp only [castBuiltin, Builtin.cast?, Builtin.castDateTime?]
  cases Calendar.moment? s.toList <;> rfl

theorem process_date_moment (base : FilterBase) (m : Calendar.Moment) :
    (Filter.builtin .date base none).process (Builtin.ofMoment m) = pure (.date m.date) := by
  cases m <;> rfl

/-- A date is read in a text exactly if a time is, and it is what the date filter makes of that time.
Of a timestamp that is the local date. -/
theorem process_date_text (s : String) (dates times : FilterBase) :
    Calendar.date? s.toList = (Calendar.moment? s.toList).map Calendar.Moment.date ∧
    ((∃ v, ((Filter.builtin .date dates none).process (.string s)).result = .ok v) ↔
      ∃ w, ((Filter.builtin .dateTime times none).process (.string s)).result = .ok w) ∧
    ∀ w, ((Filter.builtin .dateTime times none).process (.string s)).result = .ok w →
      (Filter.builtin .date dates none).process (.string s) =
        (Filter.builtin .date dates none).process w := by
  have date := Calendar.date?_eq_map_date s.toList
  refine ⟨date, ?_⟩
  rw [process_date_string, process_dateTime_string, date]
  cases Calendar.moment? s.toList with
  | none =>
    constructor
    · simp
    · intro w time
      cases time
  | some m =>
    constructor
    · simp
    · intro w time
      cases time
      exact (process_date_moment dates m).symm

def lateEvening : Calendar.Timestamp where
  wall := ⟨⟨2024, 1, 15, by decide, by decide, by decide⟩,
    ⟨22, 30, 10, 250000000, by decide, by decide, by decide, by decide⟩⟩
  offset := -18000
  offset_lt := by decide
  inRange := by decide

theorem process_date_text_lateEvening :
    ((Filter.builtin .dateTime ⟨"at", .ofType (.tag "date_time")⟩ none).process
      (.string " 2024-01-15 22:30:10.25 -0500")).result = .ok (.timestamp lateEvening) ∧
    (Filter.builtin .date ⟨"on", .ofType (.tag "date")⟩ none).process
      (.string " 2024-01-15 22:30:10.25 -0500") = pure (.date lateEvening.wall.date) := by
  have read : Calendar.moment? " 2024-01-15 22:30:10.25 -0500".toList =
      some (.timestamp lateEvening) := by
    decide +kernel
  have time : ((Filter.builtin .dateTime ⟨"at", .ofType (.tag "date_time")⟩ none).process
      (.string " 2024-01-15 22:30:10.25 -0500")).result = .ok (.timestamp lateEvening) := by
    rw [process_dateTime_string, read]
    rfl
  obtain ⟨-, -, truncated⟩ := process_date_text " 2024-01-15 22:30:10.25 -0500"
    ⟨"on", .ofType (.tag "date")⟩ ⟨"at", .ofType (.tag "date_time")⟩
  exact ⟨time, truncated _ time⟩

end Filter

end ArgCheck
