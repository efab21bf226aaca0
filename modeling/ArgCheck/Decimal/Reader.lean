import ArgCheck.Decimal.Basic

set_option autoImplicit false

/-!
# Reading decimals

A plain decimal has a sign, digits with at most one point among them, and underscores anywhere after
the first digit. Digits that fit neither in the scale nor in the coefficient are rounded half up at
the first of them; before the point they are an error. The scientific form has a plain decimal
before an exponent.
-/

namespace ArgCheck.Decimal

def coefficientLimit : Nat := 0x1000000000000000000000000

/-- Below this coefficient an underscore at the rounding place counts as a zero. -/
def narrowLimit : Nat := (0x10000000000000000 - 1) / 10 - 255

def isFiller (c : Char) : Bool := c.isDigit || c == '_'

/-- Rounds by the first digit left out. A coefficient that then no longer fits gives up its last
digit. -/
def roundHalfUp (coefficient scale digit : Nat) : Option (Nat × Nat) :=
  if digit < 5 then some (coefficient, scale)
  else if coefficient + 1 < coefficientLimit then some (coefficient + 1, scale)
  else if scale = 0 then none
  else some ((coefficient + 5) / 10, scale - 1)

/-- The text from the rounding place on. What follows the digit there is not read. -/
def finish (coefficient scale : Nat) : List Char → Option (Nat × Nat)
  | [] => some (coefficient, scale)
  | c :: rest =>
    if c.isDigit then
      if rest.all isFiller then roundHalfUp coefficient scale (Numeral.digitValue c) else none
    else if c = '_' then
      if narrowLimit ≤ coefficient then finish coefficient scale rest
      else if rest.all isFiller then some (coefficient, scale)
      else none
    else none

def scan (afterPoint hasDigit : Bool) (coefficient scale : Nat) : List Char → Option (Nat × Nat)
  | [] => if hasDigit then some (coefficient, scale) else none
  | c :: rest =>
    if afterPoint ∧ scale = 28 then finish coefficient scale (c :: rest)
    else if c.isDigit then
      let longer := 10 * coefficient + Numeral.digitValue c
      if longer < coefficientLimit then
        scan afterPoint true longer (if afterPoint then scale + 1 else scale) rest
      else if afterPoint then finish coefficient scale (c :: rest)
      else none
    else if c = '.' ∧ !afterPoint then scan true hasDigit coefficient scale rest
    else if c = '_' ∧ hasDigit then scan afterPoint true coefficient scale rest
    else none

/-- A plain zero has no sign. -/
def withSign (negative : Bool) (parts : Nat × Nat) : Option Decimal :=
  make? (negative && parts.1 != 0) parts.1 parts.2

def plain? : List Char → Option Decimal
  | '-' :: text => (scan false false 0 0 text).bind (withSign true)
  | '+' :: text => (scan false false 0 0 text).bind (withSign false)
  | text => (scan false false 0 0 text).bind (withSign false)

def dropDigits (coefficient places : Nat) : Nat :=
  let unit := Nat.pow 10 places
  (2 * coefficient + unit) / (2 * unit)

/-- The decimal over `10 ^ places`. It keeps its sign, even where nothing else is left of it. -/
def shrink (d : Decimal) (places : Nat) : Option Decimal :=
  if 28 < places then none
  else if d.scale + places ≤ 28 then make? d.negative d.coefficient (d.scale + places)
  else make? d.negative (dropDigits d.coefficient (d.scale + places - 28)) 28

def grow (d : Decimal) (places : Nat) : Option Decimal :=
  if places ≤ d.scale then make? d.negative d.coefficient (d.scale - places)
  else if 28 < places then none
  else make? d.negative (d.coefficient * Nat.pow 10 (places - d.scale)) 0

def isExponentMark (c : Char) : Bool := c == 'e' || c == 'E'

def scientific? (text : List Char) : Option Decimal :=
  match text.dropWhile fun c => !isExponentMark c with
  | [] => none
  | _ :: exponent => do
    let base ← plain? (text.takeWhile fun c => !isExponentMark c)
    match exponent with
    | '-' :: places => shrink base (← Numeral.word32? places)
    | places => grow base (← Numeral.word32? places)

def read? (text : List Char) : Option Decimal := (plain? text).or (scientific? text)

end ArgCheck.Decimal
