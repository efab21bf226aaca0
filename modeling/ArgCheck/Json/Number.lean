import ArgCheck.Binary64.Basic
import ArgCheck.Json.Basic
import ArgCheck.Numeral

set_option autoImplicit false

/-!
# JSON numbers

A numeral without point and exponent is a whole number if it fits in 64 bits, with or without sign.
Any other is a double: as many leading digits as fit in 64 bits are taken as a whole number, which is
then multiplied or divided by a power of ten, both rounded. A number too large for a double is an
error, one too small is a zero.
-/

namespace ArgCheck.Json

def wordLimit : Nat := 0x10000000000000000

/-- The digits before the point: the number taken so far, and how many digits did not fit. -/
def takeWhole (taken : Nat) : List Char → Nat × Nat
  | [] => (taken, 0)
  | c :: rest =>
    let longer := 10 * taken + Numeral.digitValue c
    if longer < wordLimit then takeWhole longer rest else (taken, rest.length + 1)

def takePlaces (taken : Nat) : List Char → Nat × Nat
  | [] => (taken, 0)
  | c :: rest =>
    let longer := 10 * taken + Numeral.digitValue c
    if longer < wordLimit then
      let (number, places) := takePlaces longer rest
      (number, places + 1)
    else (taken, 0)

def powerOfTen (n : Nat) : Float := Binary64.ofNat (Nat.pow 10 n)

def scaleTen : Nat → Float → Int → Option Float
  | 0, x, _ => some x
  | steps + 1, x, exponent =>
    if exponent.natAbs ≤ 308 then
      if 0 ≤ exponent then (some (x * powerOfTen exponent.natAbs)).filter fun y => !y.isInf
      else some (x / powerOfTen exponent.natAbs)
    else if x == 0 then some x
    else if 0 ≤ exponent then none
    else scaleTen steps (x / powerOfTen 308) (exponent + 308)

def makeFloat (negative : Bool) (taken : Nat) (exponent : Int) : Option Float :=
  (scaleTen 5 (Binary64.ofNat taken) exponent).map fun x => if negative then -x else x

/-- A numeral with a point or an exponent. An exponent of more than 31 bits decides alone. -/
def floating (negative : Bool) (taken : Nat) (exponent : Int) (written : Int) : Option Float :=
  if written.natAbs < 0x80000000 then makeFloat negative taken (exponent + written)
  else if taken ≠ 0 ∧ 0 < written then none
  else some (Binary64.ofRatio negative 0 1)

def wholeNumber (negative : Bool) (taken : Nat) : Json :=
  if !negative then .int taken
  else if 0 < taken ∧ taken ≤ 0x8000000000000000 then .int (-taken)
  else .float (-(Binary64.ofNat taken))

structure NumberParts where
  negative : Bool
  whole : List Char
  fraction : Option (List Char)
  exponent : Option Int

def NumberParts.number (parts : NumberParts) : Option Json :=
  let (taken, left) := takeWhole 0 parts.whole
  match parts.fraction, parts.exponent with
  | none, none =>
    if left = 0 then some (wholeNumber parts.negative taken)
    else (makeFloat parts.negative taken left).map .float
  | fraction, exponent =>
    let (taken, places) := takePlaces taken (fraction.getD [])
    (floating parts.negative taken ((left : Int) - places) (exponent.getD 0)).map .float

def takeDigits (text : List Char) : Option (List Char × List Char) :=
  let digits := text.takeWhile Char.isDigit
  if digits.isEmpty then none else some (digits, text.drop digits.length)

def takeWholeDigits : List Char → Option (List Char × List Char)
  | '0' :: c :: rest => if c.isDigit then none else some (['0'], c :: rest)
  | text => takeDigits text

def takeFraction : List Char → Option (Option (List Char) × List Char)
  | '.' :: rest => (takeDigits rest).map fun (digits, rest) => (some digits, rest)
  | rest => some (none, rest)

def takeExponent : List Char → Option (Option Int × List Char)
  | c :: rest =>
    if c = 'e' ∨ c = 'E' then
      match rest with
      | '-' :: rest =>
        (takeDigits rest).map fun (digits, rest) => (some (-(Numeral.valueOf digits : Int)), rest)
      | '+' :: rest =>
        (takeDigits rest).map fun (digits, rest) => (some (Numeral.valueOf digits : Int), rest)
      | rest =>
        (takeDigits rest).map fun (digits, rest) => (some (Numeral.valueOf digits : Int), rest)
    else some (none, c :: rest)
  | [] => some (none, [])

def takeNumber (text : List Char) : Option (Json × List Char) := do
  let (negative, text) := match text with
    | '-' :: rest => (true, rest)
    | rest => (false, rest)
  let (whole, text) ← takeWholeDigits text
  let (fraction, text) ← takeFraction text
  let (exponent, text) ← takeExponent text
  let number ← NumberParts.number { negative, whole, fraction, exponent }
  some (number, text)

end ArgCheck.Json
