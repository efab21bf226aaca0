import ArgCheck.Json.Number
import ArgCheck.Text.CodePoint

set_option autoImplicit false

/-!
# Reading JSON

The grammar of JSON without any leniency: no leading zeros, no trailing commas, no control characters
in strings, no half of a surrogate pair alone. Arrays and objects nest less than 128 deep. Repeated
keys are kept as they were written.
-/

namespace ArgCheck.Json

def isSpace (c : Char) : Bool := c == ' ' || c == '\n' || c == '\t' || c == '\r'

def skipSpace (text : List Char) : List Char := text.dropWhile isSpace

def unit? (a b c d : Char) : Option Nat := do
  some (((← Text.hexValue? a) * 16 + (← Text.hexValue? b)) * 256 + (← Text.hexValue? c) * 16 + (← Text.hexValue? d))

def isHighSurrogate (n : Nat) : Bool := 0xD800 ≤ n && n < 0xDC00

def isLowSurrogate (n : Nat) : Bool := 0xDC00 ≤ n && n < 0xE000

def simpleEscape? : Char → Option Char
  | '\"' => some '\"'
  | '\\' => some '\\'
  | '/' => some '/'
  | 'b' => some '\x08'
  | 'f' => some '\x0c'
  | 'n' => some '\n'
  | 'r' => some '\r'
  | 't' => some '\t'
  | _ => none

def stringRest : List Char → Option (List Char × List Char)
  | [] => none
  | '\"' :: rest => some ([], rest)
  | '\\' :: 'u' :: a :: b :: c :: d :: '\\' :: 'u' :: e :: f :: g :: h :: rest => do
    let high ← unit? a b c d
    if isHighSurrogate high then
      let low ← unit? e f g h
      if isLowSurrogate low then
        let (tail, rest) ← stringRest rest
        some (Char.ofNat (0x10000 + (high - 0xD800) * 0x400 + (low - 0xDC00)) :: tail, rest)
      else none
    else if isLowSurrogate high then none
    else
      let (tail, rest) ← stringRest ('\\' :: 'u' :: e :: f :: g :: h :: rest)
      some (Char.ofNat high :: tail, rest)
  | '\\' :: 'u' :: a :: b :: c :: d :: rest => do
    let n ← unit? a b c d
    if isHighSurrogate n || isLowSurrogate n then none
    else
      let (tail, rest) ← stringRest rest
      some (Char.ofNat n :: tail, rest)
  | '\\' :: c :: rest => do
    let escaped ← simpleEscape? c
    let (tail, rest) ← stringRest rest
    some (escaped :: tail, rest)
  | c :: rest => do
    if c.toNat < 32 ∨ c = '\\' then none
    else
      let (tail, rest) ← stringRest rest
      some (c :: tail, rest)

def takeString : List Char → Option (String × List Char)
  | '\"' :: rest => (stringRest rest).map fun (chars, rest) => (String.ofList chars, rest)
  | _ => none

mutual

/-- A value at the start of the text. `depth` bounds the nesting that is still allowed, and `fuel`
the length of the text. -/
def takeValue (depth : Nat) : Nat → List Char → Option (Json × List Char)
  | 0, _ => none
  | fuel + 1, text =>
    match skipSpace text with
    | 'n' :: 'u' :: 'l' :: 'l' :: rest => some (.null, rest)
    | 't' :: 'r' :: 'u' :: 'e' :: rest => some (.bool true, rest)
    | 'f' :: 'a' :: 'l' :: 's' :: 'e' :: rest => some (.bool false, rest)
    | '\"' :: rest => (takeString ('\"' :: rest)).map fun (s, rest) => (.string s, rest)
    | '[' :: rest =>
      match depth with
      | 0 => none
      | depth + 1 =>
        match skipSpace rest with
        | ']' :: rest => some (.array [], rest)
        | rest => (takeItems depth fuel rest).map fun (items, rest) => (.array items, rest)
    | '\x7b' :: rest =>
      match depth with
      | 0 => none
      | depth + 1 =>
        match skipSpace rest with
        | '\x7d' :: rest => some (.object [], rest)
        | rest => (takeMembers depth fuel rest).map fun (members, rest) => (.object members, rest)
    | rest => takeNumber rest

def takeItems (depth : Nat) : Nat → List Char → Option (List Json × List Char)
  | 0, _ => none
  | fuel + 1, text => do
    let (item, rest) ← takeValue depth fuel text
    match skipSpace rest with
    | ',' :: rest =>
      let (items, rest) ← takeItems depth fuel rest
      some (item :: items, rest)
    | ']' :: rest => some ([item], rest)
    | _ => none

def takeMembers (depth : Nat) : Nat → List Char → Option (List (String × Json) × List Char)
  | 0, _ => none
  | fuel + 1, text => do
    let (key, rest) ← takeString (skipSpace text)
    match skipSpace rest with
    | ':' :: rest =>
      let (value, rest) ← takeValue depth fuel rest
      match skipSpace rest with
      | ',' :: rest =>
        let (members, rest) ← takeMembers depth fuel rest
        some ((key, value) :: members, rest)
      | '\x7d' :: rest => some ([(key, value)], rest)
      | _ => none
    | _ => none

end

def maxDepth : Nat := 127

def read? (text : String) : Option Json :=
  let chars := text.toList
  match takeValue maxDepth (2 * chars.length + 2) chars with
  | some (json, rest) => if (skipSpace rest).isEmpty then some json else none
  | none => none

end ArgCheck.Json
