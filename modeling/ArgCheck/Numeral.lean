set_option autoImplicit false

/-!
# Decimal numerals

Whole numbers written with ASCII digits. `valueOf` gives a digit string its number and `digits`
writes a number without leading zeros; reading back what was written gives the number
(`valueOf_digits`). Readers accept any number of leading zeros and at most one sign.
-/

namespace ArgCheck.Numeral

def digitValue (c : Char) : Nat := c.toNat - '0'.toNat

def digitChar (d : Nat) : Char := Char.ofNat ('0'.toNat + d)

/-- The number that a digit string denotes when `start` stands before it. -/
def continued (start : Nat) (text : List Char) : Nat :=
  text.foldl (fun n c => 10 * n + digitValue c) start

def valueOf (text : List Char) : Nat := continued 0 text

def digits (n : Nat) : List Char :=
  if n < 10 then [digitChar n] else digits (n / 10) ++ [digitChar (n % 10)]
termination_by n
decreasing_by omega

def signed (n : Int) : List Char :=
  if n < 0 then '-' :: digits n.natAbs else digits n.natAbs

def render (n : Int) : String := String.ofList (signed n)

/-- The digits of `n`, filled up with zeros on the left. -/
def padded (width n : Nat) : List Char :=
  let text := digits n
  List.replicate (width - text.length) '0' ++ text

/-- One digit or more, and nothing else. -/
def natural? (text : List Char) : Option Nat :=
  if text ≠ [] ∧ text.all Char.isDigit then some (valueOf text) else none

/-- A natural number with at most one sign before it. -/
def integer? : List Char → Option Int
  | '-' :: text => (natural? text).map fun n => -(n : Int)
  | '+' :: text => (natural? text).map fun n => (n : Int)
  | text => (natural? text).map fun n => (n : Int)

def inInt64 (n : Int) : Bool := -0x8000000000000000 ≤ n && n < 0x8000000000000000

def toInt64? (n : Int) : Option Int64 := if inInt64 n then some (Int64.ofInt n) else none

def int64? (text : List Char) : Option Int64 := (integer? text).bind toInt64?

def word32? (text : List Char) : Option Nat :=
  let digits := match text with
    | '+' :: rest => rest
    | rest => rest
  (natural? digits).filter (· < 0x100000000)

def startsWithDigit : List Char → Bool
  | c :: _ => c.isDigit
  | [] => false

/-- Every underscore stands between two digits; `afterDigit` tells what stood before. -/
def wellSeparated (afterDigit : Bool) : List Char → Bool
  | [] => true
  | '_' :: rest => afterDigit && startsWithDigit rest && wellSeparated false rest
  | c :: rest => wellSeparated c.isDigit rest

/-- Underscores may separate digits, and do not count. -/
def separatedInt64? (text : List Char) : Option Int64 :=
  if wellSeparated false text then int64? (text.filter (· ≠ '_')) else none

theorem digitValue_digitChar {d : Nat} (h : d < 10) : digitValue (digitChar d) = d := by
  have : d = 0 ∨ d = 1 ∨ d = 2 ∨ d = 3 ∨ d = 4 ∨ d = 5 ∨ d = 6 ∨ d = 7 ∨ d = 8 ∨ d = 9 := by omega
  rcases this with rfl | rfl | rfl | rfl | rfl | rfl | rfl | rfl | rfl | rfl <;> decide

theorem isDigit_digitChar {d : Nat} (h : d < 10) : (digitChar d).isDigit = true := by
  have : d = 0 ∨ d = 1 ∨ d = 2 ∨ d = 3 ∨ d = 4 ∨ d = 5 ∨ d = 6 ∨ d = 7 ∨ d = 8 ∨ d = 9 := by omega
  rcases this with rfl | rfl | rfl | rfl | rfl | rfl | rfl | rfl | rfl | rfl <;> decide

theorem continued_append (start : Nat) (first second : List Char) :
    continued start (first ++ second) = continued (continued start first) second :=
  List.foldl_append

theorem valueOf_digits (n : Nat) : valueOf (digits n) = n := by
  induction n using digits.induct with
  | case1 n h =>
    rw [digits, if_pos h]
    simp [valueOf, continued, digitValue_digitChar h]
  | case2 n h ih =>
    rw [digits, if_neg h, valueOf, continued_append]
    rw [valueOf] at ih
    rw [ih]
    simp only [continued, List.foldl_cons, List.foldl_nil]
    rw [digitValue_digitChar (Nat.mod_lt n (by decide))]
    omega

theorem all_isDigit_digits (n : Nat) : (digits n).all Char.isDigit = true := by
  induction n using digits.induct with
  | case1 n h =>
    rw [digits, if_pos h]
    simp [isDigit_digitChar h]
  | case2 n h ih =>
    rw [digits, if_neg h]
    simp [ih, isDigit_digitChar (Nat.mod_lt n (by decide : 0 < 10))]

theorem digits_ne_nil (n : Nat) : digits n ≠ [] := by
  rw [digits]
  split <;> simp

theorem natural?_digits (n : Nat) : natural? (digits n) = some n := by
  simp only [natural?, all_isDigit_digits, valueOf_digits, ne_eq, digits_ne_nil, not_false_eq_true,
    and_self, if_true]

end ArgCheck.Numeral
