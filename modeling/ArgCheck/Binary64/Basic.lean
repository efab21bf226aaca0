set_option autoImplicit false

/-!
# Binary floating point, exactly

A finite double is a whole mantissa times a power of two. `magnitude` takes a double apart in this
way, and `ofRatio` finds the double nearest to a quotient of natural numbers, where a tie goes to
the even mantissa. Both work on the bits alone.
-/

namespace ArgCheck.Binary64

/-- The number `mantissa * 2 ^ exponent`. -/
structure Magnitude where
  mantissa : Nat
  exponent : Int
  deriving DecidableEq, Repr

def isNegative (x : Float) : Bool := 0x8000000000000000 ≤ x.toBits.toNat

def magnitude (x : Float) : Magnitude :=
  let bits : Nat := x.toBits.toNat % 0x8000000000000000
  let field : Nat := bits / 0x10000000000000
  let fraction : Nat := bits % 0x10000000000000
  if field = 0 then ⟨fraction, -1074⟩ else ⟨0x10000000000000 + fraction, (field : Int) - 1075⟩

/-- The quotient `num / den` divided by `2 ^ e`, as numerator and denominator. -/
def scaleDown (num den : Nat) (e : Int) : Nat × Nat :=
  if 0 ≤ e then (num, den * Nat.pow 2 e.toNat) else (num * Nat.pow 2 (-e).toNat, den)

/-- The whole number nearest to `num / den`; a tie goes to the even neighbour. -/
def halfEven (num den : Nat) : Nat :=
  let quotient := num / den
  let rest := num % den
  if 2 * rest < den then quotient
  else if den < 2 * rest then quotient + 1
  else quotient + quotient % 2

/-- The largest exponent for which the mantissa of `num / den` still has 53 bits, or the one of
the subnormal numbers if that is larger. -/
def exponentOf (num den : Nat) : Int :=
  let guess : Int := (Nat.log2 num : Int) - Nat.log2 den - 52
  let scaled := scaleDown num den guess
  max (if scaled.1 < 0x10000000000000 * scaled.2 then guess - 1 else guess) (-1074)

def infinityBits : Nat := 2047 * 0x10000000000000

def nearestBits (num den : Nat) : Nat :=
  if num = 0 then 0
  else
    let e := exponentOf num den
    let scaled := scaleDown num den e
    let mantissa := halfEven scaled.1 scaled.2
    if mantissa < 0x10000000000000 then mantissa
    else min ((e + 1075).toNat * 0x10000000000000 + (mantissa - 0x10000000000000)) infinityBits

def ofRatio (negative : Bool) (num den : Nat) : Float :=
  Float.ofBits (UInt64.ofNat ((if negative then 0x8000000000000000 else 0) + nearestBits num den))

def ofInt (n : Int) : Float := ofRatio (n < 0) n.natAbs 1

def ofNat (n : Nat) : Float := ofRatio false n 1

def isWhole (x : Float) : Bool :=
  let v := magnitude x
  x.isFinite && (0 ≤ v.exponent || v.mantissa % Nat.pow 2 (-v.exponent).toNat == 0)

def wholePart (x : Float) : Nat :=
  let v := magnitude x
  if 0 ≤ v.exponent then v.mantissa * Nat.pow 2 v.exponent.toNat
  else v.mantissa / Nat.pow 2 (-v.exponent).toNat

def truncate (x : Float) : Int :=
  if isNegative x then -(wholePart x : Int) else wholePart x

end ArgCheck.Binary64
