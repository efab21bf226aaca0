import ArgCheck.Binary64.Printer
import ArgCheck.Json.Basic
import ArgCheck.Text.Quoted

set_option autoImplicit false

/-!
# JSON text

Text without blanks, members in their order. In strings only the quote, the backslash and the
control characters below the space are escaped. Doubles have the fewest digits that read back, and
an exponent from 1e16 on and below 1e-5; a double that is not finite is written as null.
-/

namespace ArgCheck.Json

def floatStyle : Binary64.Style := ⟨-5, 16, true, .even⟩

def floatText (x : Float) : List Char :=
  if x.isFinite then Binary64.styled floatStyle x else ['n', 'u', 'l', 'l']

def escape (c : Char) : List Char :=
  match c with
  | '\"' => ['\\', '\"']
  | '\\' => ['\\', '\\']
  | '\x08' => ['\\', 'b']
  | '\x0c' => ['\\', 'f']
  | '\n' => ['\\', 'n']
  | '\r' => ['\\', 'r']
  | '\t' => ['\\', 't']
  | c =>
    if c.toNat < 32 then
      ['\\', 'u', '0', '0', Text.Quoted.hexDigit (c.toNat / 16), Text.Quoted.hexDigit (c.toNat % 16)]
    else [c]

def stringText (s : String) : List Char := ['\"'] ++ s.toList.flatMap escape ++ ['\"']

mutual

def text : Json → List Char
  | .null => ['n', 'u', 'l', 'l']
  | .bool true => ['t', 'r', 'u', 'e']
  | .bool false => ['f', 'a', 'l', 's', 'e']
  | .int n => Numeral.signed n
  | .float x => floatText x
  | .string s => stringText s
  | .array [] => ['[', ']']
  | .array (item :: rest) => ['['] ++ item.text ++ restText rest ++ [']']
  | .object [] => ['\x7b', '\x7d']
  | .object ((key, value) :: rest) =>
    ['\x7b'] ++ stringText key ++ [':'] ++ value.text ++ membersText rest ++ ['\x7d']

def restText : List Json → List Char
  | [] => []
  | item :: rest => [','] ++ item.text ++ restText rest

def membersText : List (String × Json) → List Char
  | [] => []
  | (key, value) :: rest => [','] ++ stringText key ++ [':'] ++ value.text ++ membersText rest

end

def render (json : Json) : String := String.ofList json.text

end ArgCheck.Json
