import ArgCheck.Binary64.Basic

set_option autoImplicit false

/-!
# The fewest digits that read back

A double stands for every number that lies nearer to it than to its neighbours. Among the decimal
numbers in that interval, `shortest` takes one with the fewest digits, and of those the nearest. For
each number of digits in turn it tests the two points of that decimal grid next to the value; if a
point of the grid lies in the interval, one of these two does.
-/

namespace ArgCheck.Binary64

/-- The numbers that read as a double: `low`, `value` and `high` over the common denominator
`den`, with the ends included if `closed`. -/
structure Neighbourhood where
  low : Nat
  value : Nat
  high : Nat
  den : Nat
  closed : Bool

/-- The neighbour below is half as far at a power of two, except at the least exponent. -/
def neighbourhood (v : Magnitude) : Neighbourhood :=
  let below := if v.mantissa = 0x10000000000000 ∧ -1074 < v.exponent then 1 else 2
  let e := v.exponent - 2
  let unit := if 0 ≤ e then Nat.pow 2 e.toNat else 1
  { low := (4 * v.mantissa - below) * unit
    value := 4 * v.mantissa * unit
    high := (4 * v.mantissa + 2) * unit
    den := if 0 ≤ e then 1 else Nat.pow 2 (-e).toNat
    closed := v.mantissa % 2 == 0 }

structure Scientific where
  coefficient : Nat
  exponent : Int
  deriving DecidableEq, Repr

def decimalRatio (n : Nat) (e : Int) (den : Nat) : Nat × Nat :=
  if 0 ≤ e then (n * Nat.pow 10 e.toNat, den) else (n, den * Nat.pow 10 (-e).toNat)

def Neighbourhood.contains (near : Neighbourhood) (s : Scientific) : Bool :=
  let point := decimalRatio s.coefficient s.exponent 1
  let scaled := point.1 * near.den
  if near.closed then near.low * point.2 ≤ scaled && scaled ≤ near.high * point.2
  else near.low * point.2 < scaled && scaled < near.high * point.2

/-- How many digits stand before the decimal point: the least `p` with `num / den < 10 ^ p`, looked
for from a power of ten below it. -/
def decimalPoint (num den : Nat) : Int :=
  let log2 : Int := (Nat.log2 num : Int) - Nat.log2 den
  climb 5 (log2 * 30103 / 100000 - 1)
where
  climb : Nat → Int → Int
    | 0, p => p
    | steps + 1, p =>
      let power := decimalRatio 1 p 1
      if num * power.2 < den * power.1 then p else climb steps (p + 1)

/-- Which of two equally near decimal numbers is taken. -/
inductive Tie where
  | even
  | up
  deriving DecidableEq, Repr

/-- The better of the two points next to the value on the grid `10 ^ exponent`, if one of them
reads back. -/
def onGrid (tie : Tie) (near : Neighbourhood) (exponent : Int) : Option Scientific :=
  let ratio := decimalRatio near.value (-exponent) near.den
  let floor := ratio.1 / ratio.2
  let rest := ratio.1 % ratio.2
  let below : Scientific := ⟨floor, exponent⟩
  let above : Scientific := ⟨floor + 1, exponent⟩
  match near.contains below, near.contains above with
  | true, true =>
    if 2 * rest < ratio.2 then some below
    else if ratio.2 < 2 * rest then some above
    else match tie with
      | .up => some above
      | .even => some (if floor % 2 = 0 then below else above)
  | true, false => some below
  | false, true => some above
  | false, false => none

/-- Looks from a coarse grid to finer ones; seventeen digits always suffice. -/
def search (tie : Tie) (near : Neighbourhood) : Nat → Int → Scientific
  | 0, exponent => ⟨near.value * Nat.pow 10 (-exponent).toNat / near.den, exponent⟩
  | steps + 1, exponent => (onGrid tie near exponent).getD (search tie near steps (exponent - 1))

def Scientific.reduce (s : Scientific) : Scientific :=
  if s.coefficient ≠ 0 ∧ s.coefficient % 10 = 0 then
    reduce ⟨s.coefficient / 10, s.exponent + 1⟩
  else s
termination_by s.coefficient
decreasing_by omega

def shortest (tie : Tie) (v : Magnitude) : Scientific :=
  if v.mantissa = 0 then ⟨0, 0⟩
  else
    let near := neighbourhood v
    (search tie near 17 (decimalPoint near.value near.den - 1)).reduce

end ArgCheck.Binary64
