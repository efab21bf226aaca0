import ArgCheck.Calendar.Basic
import ArgCheck.Numeral

set_option autoImplicit false

/-!
# Text of dates and times

Years from 0 to 9999 have four digits, all others a sign and at least four. A fraction of a second
has no digits or three, six or nine. A leap second is written as the second after the one that it
follows, which is 60 at the end of a minute.
-/

namespace ArgCheck.Calendar

def yearText (year : Int) : List Char :=
  if 0 ≤ year ∧ year ≤ 9999 then Numeral.padded 4 year.toNat
  else (if year < 0 then '-' else '+') :: Numeral.padded 4 year.natAbs

def Date.text (d : Date) : List Char :=
  yearText d.year ++ ['-'] ++ Numeral.padded 2 d.month ++ ['-'] ++ Numeral.padded 2 d.day

/-- The fewest of 0, 3, 6 and 9 digits that lose nothing. -/
def fractionText (nano : Nat) : List Char :=
  if nano = 0 then []
  else if nano % 1000000 = 0 then '.' :: Numeral.padded 3 (nano / 1000000)
  else if nano % 1000 = 0 then '.' :: Numeral.padded 6 (nano / 1000)
  else '.' :: Numeral.padded 9 nano

def Clock.text (c : Clock) : List Char :=
  Numeral.padded 2 c.hour ++ [':'] ++ Numeral.padded 2 c.minute ++ [':'] ++
    Numeral.padded 2 (c.second + c.nano / 1000000000) ++ fractionText (c.nano % 1000000000)

def DateTime.text (t : DateTime) : List Char := t.date.text ++ ['T'] ++ t.clock.text

def sign (offset : Int) : Char := if offset < 0 then '-' else '+'

/-- An offset in hours and minutes, rounded to whole minutes. -/
def offsetText (offset : Int) : List Char :=
  let minutes := (offset.natAbs + 30) / 60
  [sign offset] ++ Numeral.padded 2 (minutes / 60) ++ [':'] ++ Numeral.padded 2 (minutes % 60)

def Timestamp.text (t : Timestamp) : List Char := t.wall.text ++ offsetText t.offset

def exactOffsetText (offset : Int) : List Char :=
  let seconds := offset.natAbs
  [sign offset] ++ Numeral.padded 2 (seconds / 3600) ++ [':'] ++
    Numeral.padded 2 (seconds / 60 % 60) ++
    (if seconds % 60 = 0 then [] else ':' :: Numeral.padded 2 (seconds % 60))

def Timestamp.exactText (t : Timestamp) : List Char := t.wall.text ++ exactOffsetText t.offset

end ArgCheck.Calendar
