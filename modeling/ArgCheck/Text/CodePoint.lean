import ArgCheck.Numeral

set_option autoImplicit false

/-!
# Code points

Hexadecimal digits, and the characters that have a given code point. The code points of surrogates have
none.
-/

namespace ArgCheck.Text

def hexValue? (c : Char) : Option Nat :=
  if c.isDigit then some (Numeral.digitValue c)
  else if 'a' ≤ c ∧ c ≤ 'f' then some (c.toNat - 'a'.toNat + 10)
  else if 'A' ≤ c ∧ c ≤ 'F' then some (c.toNat - 'A'.toNat + 10)
  else none

def charOf? (n : Nat) : Option Char :=
  if n < 0xD800 ∨ 0xE000 ≤ n ∧ n < 0x110000 then some (Char.ofNat n) else none

end ArgCheck.Text
