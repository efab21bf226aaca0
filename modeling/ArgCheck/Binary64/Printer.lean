import ArgCheck.Binary64.Shortest
import ArgCheck.Numeral

set_option autoImplicit false

/-!
# Text of doubles

Three ways to write a double, all with the fewest digits that read back: plainly without an exponent,
or in a `Style` that writes large and small numbers with an exponent. `whole` writes every digit of
a number without a fraction.
-/

namespace ArgCheck.Binary64

def minus (x : Float) : List Char := if isNegative x then ['-'] else []

/-- The digits of a decimal number with the point at its place, and no point after the units. -/
def Scientific.positional (s : Scientific) : List Char :=
  let digits := Numeral.digits s.coefficient
  if 0 ≤ s.exponent then digits ++ List.replicate s.exponent.toNat '0'
  else
    let places := (-s.exponent).toNat
    let filled := List.replicate (places + 1 - digits.length) '0' ++ digits
    filled.take (filled.length - places) ++ ['.'] ++ filled.drop (filled.length - places)

/-- Never an exponent, and no point after a whole number. -/
def plain (x : Float) : List Char :=
  if x.isNaN then ['N', 'a', 'N']
  else if x.isFinite then minus x ++ (shortest .up (magnitude x)).positional
  else minus x ++ ['i', 'n', 'f']

/-- All digits of a finite number without a fraction, and one zero after the point. -/
def whole (x : Float) : List Char := minus x ++ Numeral.digits (wholePart x) ++ ['.', '0']

structure Style where
  /-- The least decimal exponent that is written without an exponent. -/
  least : Int
  /-- The first decimal exponent from which on an exponent is written. -/
  beyond : Int
  /-- A positive exponent carries its sign. -/
  plus : Bool
  tie : Tie

def Scientific.exponential (style : Style) (s : Scientific) : List Char :=
  let digits := Numeral.digits s.coefficient
  let exponent := s.exponent + digits.length - 1
  let fraction := digits.drop 1
  digits.take 1 ++ (if fraction.isEmpty then [] else '.' :: fraction) ++
    ['e'] ++ (if style.plus && 0 ≤ exponent then ['+'] else []) ++ Numeral.signed exponent

/-- A finite number; a whole number without an exponent ends in one zero after the point. -/
def styled (style : Style) (x : Float) : List Char :=
  let s := shortest style.tie (magnitude x)
  let exponent := s.exponent + (Numeral.digits s.coefficient).length - 1
  minus x ++
    if s.coefficient = 0 || (style.least ≤ exponent && exponent < style.beyond) then
      s.positional ++ (if 0 ≤ s.exponent then ['.', '0'] else [])
    else s.exponential style

end ArgCheck.Binary64
