import ArgCheck.Binary64.Printer
import ArgCheck.Decimal.Reader

set_option autoImplicit false

/-!
# Decimals and doubles

A finite double becomes the decimal that its plain text denotes. A decimal becomes a double by whole
part and fraction apart, and the sum is rounded to the decimal's own scale.
-/

namespace ArgCheck.Decimal

def ofFloat? (x : Float) : Option Decimal :=
  if x.isFinite then read? (Binary64.plain x) else none

def magnitudeToFloat (coefficient scale : Nat) : Float :=
  let unit := Nat.pow 10 scale
  let whole := Binary64.ofNat (coefficient / unit)
  let fraction := coefficient % unit
  if fraction = 0 then whole
  else
    let scaled := Binary64.ofNat unit
    ((whole + Binary64.ofNat fraction / scaled) * scaled).round / scaled

def toFloat (d : Decimal) : Float :=
  let magnitude := magnitudeToFloat d.coefficient d.scale
  if d.negative then -magnitude else magnitude

end ArgCheck.Decimal
