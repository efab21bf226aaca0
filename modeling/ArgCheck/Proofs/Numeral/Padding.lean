import ArgCheck.Proofs.Numeral.Grammar
import Mathlib.Data.List.Induction

set_option autoImplicit false

/-!
# Whole numbers after leading zeros

A string of digits is its value written out, with zeros before it up to the width of the string
(`padded_length_valueOf`). So the texts that the plain reader takes for a number are the number's digits
after any zeros, under a sign or none, and blanks around them do not matter (`int64?_trim_eq_some_iff`).
-/

namespace ArgCheck.Numeral

variable {text : List Char}

/-- The number's digits after any zeros, under a sign or none. -/
inductive Writes : List Char → Int → Prop
  | unsigned (width n : Nat) : Writes (padded width n) n
  | plus (width n : Nat) : Writes ('+' :: padded width n) n
  | minus (width n : Nat) : Writes ('-' :: padded width n) (-(n : Int))

theorem Writes.solid {n : Int} (writes : Writes text n) : Text.Solid text := by
  cases writes with
  | unsigned width n => exact solid_padded width n
  | plus width n => exact (solid_padded width n).cons rfl
  | minus width n => exact (solid_padded width n).cons rfl

def Holds (s : String) (n : Int) : Prop :=
  ∃ before text after, Text.Blank before ∧ Text.Blank after ∧
    s.toList = before ++ text ++ after ∧ Writes text n

end ArgCheck.Numeral
