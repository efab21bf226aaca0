import ArgCheck.Text.Printable

set_option autoImplicit false

/-!
# Quoted text

Text between double quotes, as descriptions of values show it. A tab, a line end, a quote, a
backslash and the zero character have short spellings; any other character without a shape of its
own is spelled by its number in braces.
-/

namespace ArgCheck.Text.Quoted

def hexDigit (d : Nat) : Char :=
  if d < 10 then Char.ofNat ('0'.toNat + d) else Char.ofNat ('a'.toNat + (d - 10))

def hex (n : Nat) : List Char :=
  if n < 16 then [hexDigit n] else hex (n / 16) ++ [hexDigit (n % 16)]
termination_by n
decreasing_by omega

def spell (c : Char) : List Char :=
  match c with
  | '\x00' => ['\\', '0']
  | '\t' => ['\\', 't']
  | '\r' => ['\\', 'r']
  | '\n' => ['\\', 'n']
  | '\\' => ['\\', '\\']
  | '\"' => ['\\', '\"']
  | c =>
    if isPrintable c then [c] else ['\\', 'u', '\x7b'] ++ hex c.toNat ++ ['\x7d']

def encode (text : String) : String :=
  String.ofList (['\"'] ++ text.toList.flatMap spell ++ ['\"'])

end ArgCheck.Text.Quoted
