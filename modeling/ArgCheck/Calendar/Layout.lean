import ArgCheck.Calendar.Basic
import ArgCheck.Numeral
import ArgCheck.Text.Blank

set_option autoImplicit false

/-!
# Layouts of dates and times

A layout is a list of items, each of which reads a piece of text and may fill a field. A text has a
layout if the items read all of it, one after the other. `Layout.read` yields the fields; the
functions after it make dates and times of them, or fail where a field is missing or out of range.
-/

namespace ArgCheck.Calendar

inductive Item where
  /-- Blanks, then at most four digits, or a sign and any number of digits. -/
  | year
  | month
  | day
  | hour
  | minute
  | second
  /-- A point and digits, of which the first nine count, or nothing. -/
  | fraction
  /-- Blanks, a sign, two digits of hours, colons and blanks, two digits of minutes. -/
  | offset
  | shortMonth
  /-- The long name if it is there, else the short one. -/
  | longMonth
  /-- Blanks, or nothing. -/
  | blank
  | char (c : Char)
  deriving DecidableEq, Repr

abbrev Layout := List Item

structure Fields where
  year : Option Int := none
  month : Option Nat := none
  day : Option Nat := none
  hour : Option Nat := none
  minute : Option Nat := none
  second : Option Nat := none
  nano : Option Nat := none
  offset : Option Int := none
  deriving DecidableEq, Repr

def takeNumber (most : Nat) (text : List Char) : Option (Nat × List Char) :=
  let digits := (text.take most).takeWhile Char.isDigit
  if digits.isEmpty then none else some (Numeral.valueOf digits, text.drop digits.length)

def takeYear (text : List Char) : Option (Int × List Char) :=
  match Text.skipBlanks text with
  | '-' :: rest => (takeNumber rest.length rest).map fun (n, rest) => (-(n : Int), rest)
  | '+' :: rest => (takeNumber rest.length rest).map fun (n, rest) => ((n : Int), rest)
  | rest => (takeNumber 4 rest).map fun (n, rest) => ((n : Int), rest)

def takeTwoDigits (text : List Char) : Option (Nat × List Char) :=
  takeNumber 2 (Text.skipBlanks text)

def takeNanos (text : List Char) : Option (Nat × List Char) :=
  let digits := text.takeWhile Char.isDigit
  if digits.isEmpty then none
  else
    let counted := digits.take 9
    some (Numeral.valueOf counted * Nat.pow 10 (9 - counted.length), text.drop digits.length)

def takeFraction : List Char → Option (Option Nat × List Char)
  | '.' :: rest => (takeNanos rest).map fun (n, rest) => (some n, rest)
  | rest => some (none, rest)

def exactlyTwoDigits : List Char → Option (Nat × List Char)
  | a :: b :: rest =>
    if a.isDigit && b.isDigit then some (Numeral.valueOf [a, b], rest) else none
  | _ => none

/-- A minus sign may also be the mathematical one. -/
def takeSign : List Char → Option (Bool × List Char)
  | '+' :: rest => some (false, rest)
  | '-' :: rest => some (true, rest)
  | '−' :: rest => some (true, rest)
  | _ => none

/-- A sign, hours and minutes, with what `between` removes standing between these two. -/
def takeOffset (between : List Char → Option (List Char)) (text : List Char) :
    Option (Int × List Char) := do
  let (negative, text) ← takeSign text
  let (hours, text) ← exactlyTwoDigits text
  let text ← between text
  let (minutes, text) ← exactlyTwoDigits text
  let seconds : Int := 3600 * hours + 60 * minutes
  if minutes < 60 then some (if negative then -seconds else seconds, text) else none

def skipColons (text : List Char) : List Char :=
  text.dropWhile fun c => c == ':' || Text.isBlank c

def shortMonths : List (List Char) :=
  [['j', 'a', 'n'], ['f', 'e', 'b'], ['m', 'a', 'r'], ['a', 'p', 'r'], ['m', 'a', 'y'],
    ['j', 'u', 'n'], ['j', 'u', 'l'], ['a', 'u', 'g'], ['s', 'e', 'p'], ['o', 'c', 't'],
    ['n', 'o', 'v'], ['d', 'e', 'c']]

def monthEndings : List (List Char) :=
  [['u', 'a', 'r', 'y'], ['r', 'u', 'a', 'r', 'y'], ['c', 'h'], ['i', 'l'], [], ['e'], ['y'],
    ['u', 's', 't'], ['t', 'e', 'm', 'b', 'e', 'r'], ['o', 'b', 'e', 'r'], ['e', 'm', 'b', 'e', 'r'],
    ['e', 'm', 'b', 'e', 'r']]

/-- The text after `word`, which may be in letters of any case. -/
def dropWord (word text : List Char) : Option (List Char) :=
  if (text.take word.length).map Char.toLower = word then some (text.drop word.length) else none

def takeShortMonth (text : List Char) : Option (Nat × List Char) :=
  match shortMonths.findIdx? fun name => (text.take 3).map Char.toLower == name with
  | some index => some (index + 1, text.drop 3)
  | none => none

def takeLongMonth (text : List Char) : Option (Nat × List Char) := do
  let (month, rest) ← takeShortMonth text
  let ending := (monthEndings[month - 1]?).getD []
  some (month, (dropWord ending rest).getD rest)

def Item.read (item : Item) (fields : Fields) (text : List Char) : Option (Fields × List Char) :=
  match item with
  | .year => (takeYear text).map fun (n, rest) => ({ fields with year := some n }, rest)
  | .month => (takeTwoDigits text).map fun (n, rest) => ({ fields with month := some n }, rest)
  | .day => (takeTwoDigits text).map fun (n, rest) => ({ fields with day := some n }, rest)
  | .hour => (takeTwoDigits text).map fun (n, rest) => ({ fields with hour := some n }, rest)
  | .minute => (takeTwoDigits text).map fun (n, rest) => ({ fields with minute := some n }, rest)
  | .second => (takeTwoDigits text).map fun (n, rest) => ({ fields with second := some n }, rest)
  | .fraction => (takeFraction text).map fun (n, rest) => ({ fields with nano := n }, rest)
  | .offset =>
    (takeOffset (fun rest => some (skipColons rest)) (Text.skipBlanks text)).map
      fun (n, rest) => ({ fields with offset := some n }, rest)
  | .shortMonth =>
    (takeShortMonth text).map fun (n, rest) => ({ fields with month := some n }, rest)
  | .longMonth => (takeLongMonth text).map fun (n, rest) => ({ fields with month := some n }, rest)
  | .blank => some (fields, Text.skipBlanks text)
  | .char c => match text with
    | d :: rest => if d = c then some (fields, rest) else none
    | [] => none

def Layout.readFrom (fields : Fields) : Layout → List Char → Option (Fields × List Char)
  | [], text => some (fields, text)
  | item :: items, text => do
    let (fields, rest) ← item.read fields text
    readFrom fields items rest

def Layout.read (layout : Layout) (text : List Char) : Option Fields :=
  match layout.readFrom {} text with
  | some (fields, []) => some fields
  | _ => none

def Fields.date? (fields : Fields) : Option Date := do
  Date.make? (← fields.year) (← fields.month) (← fields.day)

/-- The second 60 is a leap second, in any minute; missing seconds are zero. -/
def Fields.clock? (fields : Fields) : Option Clock := do
  let second := fields.second.getD 0
  let nano := fields.nano.getD 0
  if second = 60 then Clock.make? (← fields.hour) (← fields.minute) 59 (1000000000 + nano)
  else Clock.make? (← fields.hour) (← fields.minute) second nano

def Fields.dateTime? (fields : Fields) : Option DateTime := do
  some ⟨← fields.date?, ← fields.clock?⟩

def Fields.timestamp? (fields : Fields) : Option Timestamp := do
  Timestamp.make? (← fields.dateTime?) (← fields.offset)

end ArgCheck.Calendar
