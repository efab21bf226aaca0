import ArgCheck.Calendar.Layout

set_option autoImplicit false

/-!
# Reading dates and times

The layouts that are understood, in the order in which they are tried. A text with an offset is read
as a timestamp, one without as a date and time, and a date alone as its midnight.
-/

namespace ArgCheck.Calendar

def dashedDate : Layout := [.year, .char '-', .month, .char '-', .day]

def slashedDate : Layout := [.year, .char '/', .month, .char '/', .day]

def hourMinute : Layout := [.hour, .char ':', .minute]

def wholeSeconds : Layout := hourMinute ++ [.char ':', .second]

def fractionalSeconds : Layout := wholeSeconds ++ [.fraction]

def dateLayouts : List Layout :=
  [dashedDate,
    slashedDate,
    [.year, .month, .day],
    [.day, .blank, .shortMonth, .blank, .year],
    [.day, .blank, .longMonth, .blank, .year],
    [.shortMonth, .blank, .day, .blank, .year],
    [.shortMonth, .blank, .day, .char ',', .blank, .year],
    [.longMonth, .blank, .day, .blank, .year],
    [.longMonth, .blank, .day, .char ',', .blank, .year]]

def offsetLayouts : List Layout :=
  [dashedDate ++ [.char 'T'] ++ fractionalSeconds ++ [.offset],
    dashedDate ++ [.blank] ++ fractionalSeconds ++ [.offset],
    dashedDate ++ [.blank] ++ fractionalSeconds ++ [.blank, .offset],
    dashedDate ++ [.char 'T'] ++ hourMinute ++ [.offset]]

def localLayouts : List Layout :=
  [dashedDate ++ [.char 'T'] ++ fractionalSeconds,
    dashedDate ++ [.blank] ++ fractionalSeconds,
    dashedDate ++ [.char 'T'] ++ hourMinute,
    dashedDate ++ [.blank] ++ hourMinute,
    slashedDate ++ [.blank] ++ wholeSeconds]

def exactNumber (width : Nat) (text : List Char) : Option (Nat × List Char) :=
  let digits := text.take width
  if digits.length = width ∧ digits.all Char.isDigit then
    some (Numeral.valueOf digits, text.drop width)
  else none

def takeChar (allowed : Char → Bool) : List Char → Option (List Char)
  | c :: rest => if allowed c then some rest else none
  | [] => none

/-- The offset of the strict form: the letter Z, or hours and minutes with one colon between. -/
def strictOffset : List Char → Option (Int × List Char)
  | 'Z' :: rest => some (0, rest)
  | 'z' :: rest => some (0, rest)
  | rest => takeOffset (takeChar (· == ':')) rest

/-- The Internet form of a timestamp: every field has its full width, and the offset is there. -/
def strict? (text : List Char) : Option Timestamp := do
  let (year, text) ← exactNumber 4 text
  let text ← takeChar (· == '-') text
  let (month, text) ← exactNumber 2 text
  let text ← takeChar (· == '-') text
  let (day, text) ← exactNumber 2 text
  let text ← takeChar (fun c => c == 'T' || c == 't' || c == ' ') text
  let (hour, text) ← exactNumber 2 text
  let text ← takeChar (· == ':') text
  let (minute, text) ← exactNumber 2 text
  let text ← takeChar (· == ':') text
  let (second, text) ← exactNumber 2 text
  let (nano, text) ← takeFraction text
  let (offset, text) ← strictOffset text
  if text.isEmpty then
    let fields : Fields :=
      { year := some year, month := some month, day := some day, hour := some hour,
        minute := some minute, second := some second, nano, offset := some offset }
    fields.timestamp?
  else none

/-- What the readers find: a time with or without an offset. -/
inductive Moment where
  | dateTime (t : DateTime)
  | timestamp (t : Timestamp)
  deriving DecidableEq

def Moment.date : Moment → Date
  | .dateTime t => t.date
  | .timestamp t => t.wall.date

def dateOnly? (text : List Char) : Option Date :=
  dateLayouts.findSome? fun layout => (layout.read text).bind Fields.date?

def offsetTime? (text : List Char) : Option Timestamp :=
  (strict? text).or
    (offsetLayouts.findSome? fun layout => (layout.read text).bind Fields.timestamp?)

def localTime? (text : List Char) : Option DateTime :=
  localLayouts.findSome? fun layout => (layout.read text).bind Fields.dateTime?

def moment? (text : List Char) : Option Moment :=
  let text := Text.trim text
  ((offsetTime? text).map .timestamp).or <|
    ((localTime? text).map .dateTime).or <|
      (dateOnly? text).map fun date => .dateTime ⟨date, .midnight⟩

def date? (text : List Char) : Option Date :=
  let text := Text.trim text
  (dateOnly? text).or ((moment? text).map Moment.date)

end ArgCheck.Calendar
