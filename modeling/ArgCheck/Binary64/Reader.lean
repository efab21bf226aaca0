import ArgCheck.Binary64.Basic
import ArgCheck.Numeral

set_option autoImplicit false

/-!
# Reading doubles

A decimal numeral has digits on at least one side of an optional point, an optional sign before them
and an optional exponent after them. `read?` gives the double nearest to the number it denotes, if
that is finite.
-/

namespace ArgCheck.Binary64

/-- The parts of a decimal numeral: the number is `coefficient * 10 ^ exponent`. -/
structure Literal where
  negative : Bool
  coefficient : Nat
  exponent : Int
  deriving DecidableEq, Repr

def takeSign : List Char → Bool × List Char
  | '-' :: text => (true, text)
  | '+' :: text => (false, text)
  | text => (false, text)

def exponent? : List Char → Option Int
  | [] => some 0
  | c :: text => if c = 'e' ∨ c = 'E' then Numeral.integer? text else none

def literal? (text : List Char) : Option Literal :=
  let (negative, unsigned) := takeSign text
  let whole := unsigned.takeWhile Char.isDigit
  let afterWhole := unsigned.dropWhile Char.isDigit
  let (fraction, rest) := match afterWhole with
    | '.' :: tail => (tail.takeWhile Char.isDigit, tail.dropWhile Char.isDigit)
    | tail => ([], tail)
  if whole.isEmpty && fraction.isEmpty then none
  else (exponent? rest).map fun e =>
    { negative
      coefficient := Numeral.valueOf (whole ++ fraction)
      exponent := e - fraction.length }

/-- The nearest double. A number far outside the range of doubles is not computed. -/
def Literal.nearest (n : Literal) : Float :=
  let size : Int := n.exponent + (Nat.log2 n.coefficient * 30103 / 100000 : Nat)
  if n.coefficient = 0 ∨ size < -330 then ofRatio n.negative 0 1
  else if 310 < size then ofRatio n.negative (Nat.pow 2 1024) 1
  else if 0 ≤ n.exponent then ofRatio n.negative (n.coefficient * Nat.pow 10 n.exponent.toNat) 1
  else ofRatio n.negative n.coefficient (Nat.pow 10 (-n.exponent).toNat)

def read? (text : List Char) : Option Float :=
  ((literal? text).map Literal.nearest).filter Float.isFinite

end ArgCheck.Binary64
