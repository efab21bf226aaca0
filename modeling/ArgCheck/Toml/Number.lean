import ArgCheck.Binary64.Reader
import ArgCheck.Json.Basic
import ArgCheck.Text.CodePoint

set_option autoImplicit false

/-!
# Numbers of TOML

Whole numbers of 64 bits with sign, in decimal with a sign, or in hexadecimal, octal or binary behind
their marks; and doubles, with a fraction or an exponent, infinite or NaN. Single underscores may
stand between digits, and decimal numbers have no leading zeros.
-/

namespace ArgCheck.Toml

def takeDigits (isDigit : Char → Bool) : List Char → Option (List Char × List Char)
  | [] => none
  | c :: rest =>
    if isDigit c then
      match rest with
      | '_' :: next =>
        match takeDigits isDigit next with
        | some (digits, rest) => some (c :: digits, rest)
        | none => none
      | rest =>
        match takeDigits isDigit rest with
        | some (digits, rest) => some (c :: digits, rest)
        | none => some ([c], rest)
    else none

/-- A decimal whole number without its sign: a zero, or digits that do not start with one. -/
def takeUnsigned : List Char → Option (List Char × List Char)
  | '0' :: rest => some (['0'], rest)
  | text => takeDigits Char.isDigit text

def takeSign : List Char → List Char × List Char
  | '-' :: rest => (['-'], rest)
  | '+' :: rest => ([], rest)
  | text => ([], text)

def takeFraction : List Char → Option (List Char × List Char)
  | '.' :: rest => (takeDigits Char.isDigit rest).map fun (digits, rest) => ('.' :: digits, rest)
  | text => some ([], text)

def takeExponent : List Char → Option (List Char × List Char)
  | c :: rest =>
    if c = 'e' ∨ c = 'E' then
      let (sign, rest) := takeSign rest
      (takeDigits Char.isDigit rest).map fun (digits, rest) => ('e' :: sign ++ digits, rest)
    else some ([], c :: rest)
  | [] => some ([], [])

def infinity : Float := 1 / 0

def notANumber : Float := 0 / 0

/-- A literal that is too large is an infinity, and then only a negative one is allowed. -/
def double? (literal : List Char) : Option Float :=
  match Binary64.literal? literal with
  | some n =>
    let x := n.nearest
    if x.isInf && !Binary64.isNegative x then none else some x
  | none => none

def takeDecimal (text : List Char) : Option (Json × List Char) := do
  let (sign, rest) := takeSign text
  let (whole, rest) ← takeUnsigned rest
  let (fraction, rest) ← takeFraction rest
  let (exponent, rest) ← takeExponent rest
  if fraction.isEmpty && exponent.isEmpty then
    let n ← Numeral.int64? (sign ++ whole)
    some (.int n.toInt, rest)
  else
    let x ← double? (sign ++ whole ++ fraction ++ exponent)
    some (.float x, rest)

def isOctalDigit (c : Char) : Bool := '0' ≤ c && c ≤ '7'

def isBinaryDigit (c : Char) : Bool := c == '0' || c == '1'

def takeInBase (base : Nat) (isDigit : Char → Bool) (text : List Char) :
    Option (Json × List Char) := do
  let (digits, rest) ← takeDigits isDigit text
  let n ← digits.foldlM (fun n c => (Text.hexValue? c).map (base * n + ·)) 0
  if n < 0x8000000000000000 then some (.int n, rest) else none

def takeNumber (text : List Char) : Option (Json × List Char) :=
  match text with
  | '0' :: 'x' :: rest => takeInBase 16 (fun c => (Text.hexValue? c).isSome) rest
  | '0' :: 'o' :: rest => takeInBase 8 isOctalDigit rest
  | '0' :: 'b' :: rest => takeInBase 2 isBinaryDigit rest
  | text =>
    match takeSign text with
    | (_, 'n' :: 'a' :: 'n' :: rest) => some (.float notANumber, rest)
    | (sign, 'i' :: 'n' :: 'f' :: rest) =>
      some (.float (if sign.isEmpty then infinity else -infinity), rest)
    | _ => takeDecimal text

end ArgCheck.Toml
