import ArgCheck.Calendar.Reader
import ArgCheck.Json.Basic

set_option autoImplicit false

/-!
# Dates and times of TOML

A date, a time of day, or a date with a time and perhaps an offset from UTC. What is read is an object
with one key, under which the canonical text stands: the letter T between date and time, at most nine
digits of a fraction and no zeros at its end, the letter Z or an offset with its sign.
-/

namespace ArgCheck.Toml

def takePair (last : Nat) (text : List Char) : Option (List Char × List Char) := do
  let (n, rest) ← Calendar.exactNumber 2 text
  if n ≤ last then some (text.take 2, rest) else none

def takeDate (text : List Char) : Option (List Char × List Char) := do
  let (year, rest) ← Calendar.exactNumber 4 text
  let rest ← Calendar.takeChar (· == '-') rest
  let (month, rest) ← Calendar.exactNumber 2 rest
  let rest ← Calendar.takeChar (· == '-') rest
  let (day, rest) ← Calendar.exactNumber 2 rest
  let _ ← Calendar.Date.make? year month day
  some (text.take 10, rest)

def nanoText (digits : List Char) : List Char :=
  match ((digits.take 9).reverse.dropWhile (· == '0')).reverse with
  | [] => []
  | kept => '.' :: kept

def takeNanos (text : List Char) : List Char × List Char :=
  match text with
  | '.' :: rest =>
    match rest.span Char.isDigit with
    | ([], _) => ([], text)
    | (digits, rest) => (nanoText digits, rest)
  | _ => ([], text)

/-- A time of day; a leap second may stand in any minute. -/
def takeTime (text : List Char) : Option (List Char × List Char) := do
  let (hour, rest) ← takePair 23 text
  let rest ← Calendar.takeChar (· == ':') rest
  let (minute, rest) ← takePair 59 rest
  let rest ← Calendar.takeChar (· == ':') rest
  let (second, rest) ← takePair 60 rest
  let (nanos, rest) := takeNanos rest
  some (hour ++ [':'] ++ minute ++ [':'] ++ second ++ nanos, rest)

/-- Hours and minutes of an offset. An offset of zero is never negative. -/
def takeShift (sign : Char) (text : List Char) : Option (List Char × List Char) := do
  let (hours, rest) ← takePair 23 text
  let rest ← Calendar.takeChar (· == ':') rest
  let (minutes, rest) ← takePair 59 rest
  let shift := hours ++ [':'] ++ minutes
  some ((if shift = "00:00".toList then '+' else sign) :: shift, rest)

def takeOffset (text : List Char) : List Char × List Char :=
  match text with
  | c :: rest =>
    if c = 'Z' ∨ c = 'z' then (['Z'], rest)
    else if c = '+' ∨ c = '-' then (takeShift c rest).getD ([], text)
    else ([], text)
  | [] => ([], [])

def takeTimeOfDate (text : List Char) : List Char × List Char :=
  match (Calendar.takeChar (fun c => c == 'T' || c == 't' || c == ' ') text).bind takeTime with
  | some (time, rest) =>
    let (offset, rest) := takeOffset rest
    ('T' :: time ++ offset, rest)
  | none => ([], text)

def momentKey : String := "$__toml_private_datetime"

def momentJson (text : List Char) : Json := .object [(momentKey, .string (String.ofList text))]

def takeMoment (text : List Char) : Option (Json × List Char) :=
  match takeDate text with
  | some (date, rest) =>
    let (time, rest) := takeTimeOfDate rest
    some (momentJson (date ++ time), rest)
  | none => (takeTime text).map fun (time, rest) => (momentJson time, rest)

end ArgCheck.Toml
