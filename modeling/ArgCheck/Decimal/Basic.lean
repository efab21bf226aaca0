import ArgCheck.Numeral

set_option autoImplicit false

/-!
# Decimal numbers

A decimal has a sign, a coefficient of at most 96 bits and a scale of at most 28: the number of its
fraction digits. Sign and scale belong to the value, so `1.5` and `1.50` are different decimals of one
number, and so are the two zeros of one scale; `sameNumber` compares numbers.
-/

namespace ArgCheck

structure Decimal where
  negative : Bool
  coefficient : Nat
  scale : Nat
  coefficient_lt : coefficient < 0x1000000000000000000000000
  scale_le : scale ≤ 28
  deriving DecidableEq

namespace Decimal

def make? (negative : Bool) (coefficient scale : Nat) : Option Decimal :=
  if h : coefficient < 0x1000000000000000000000000 ∧ scale ≤ 28 then some ⟨negative, coefficient, scale, h.1, h.2⟩
  else none

def ofInt64 (n : Int64) : Decimal where
  negative := n.toInt < 0
  coefficient := n.toInt.natAbs
  scale := 0
  coefficient_lt := by
    have upper := n.toInt_lt
    have lower := n.le_toInt
    omega
  scale_le := by omega

def signed (d : Decimal) : Int := if d.negative then -(d.coefficient : Int) else d.coefficient

def isZero (d : Decimal) : Bool := d.coefficient == 0

def sameNumber (a b : Decimal) : Bool :=
  a.signed * Int.pow 10 b.scale == b.signed * Int.pow 10 a.scale

def isOne (d : Decimal) : Bool := d.signed == Int.pow 10 d.scale

/-- The whole part; a fraction is cut off toward zero. -/
def truncate (d : Decimal) : Int := d.signed.tdiv (Int.pow 10 d.scale)

/-- All digits of the coefficient, `scale` of them after the point. -/
def text (d : Decimal) : List Char :=
  let digits := Numeral.padded (d.scale + 1) d.coefficient
  let whole := digits.take (digits.length - d.scale)
  let fraction := digits.drop (digits.length - d.scale)
  (if d.negative then ['-'] else []) ++ whole ++
    (if d.scale = 0 then [] else '.' :: fraction)

def render (d : Decimal) : String := String.ofList d.text

theorem make?_self (d : Decimal) : make? d.negative d.coefficient d.scale = some d :=
  dif_pos ⟨d.coefficient_lt, d.scale_le⟩

theorem sameNumber_iff (a b : Decimal) :
    a.sameNumber b = true ↔ a.signed * Int.pow 10 b.scale = b.signed * Int.pow 10 a.scale := by
  simp [sameNumber]

end Decimal

end ArgCheck
