import ArgCheck.Calendar.Printer
import ArgCheck.Calendar.Reader
import ArgCheck.Proofs.Numeral.Digits

set_option autoImplicit false

/-!
# Reading the parts of dates and times

Each reader of a part gets back what the printer of that part has written, and leaves what stands
after it. A year or a fraction ends only at a character that is no digit; the parts of two digits
end by themselves.
-/

namespace ArgCheck

open Numeral

namespace Text

theorem skipBlanks_digits {digits : List Char} (allDigits : AllDigits digits)
    (nonempty : digits ≠ []) (rest : List Char) : skipBlanks (digits ++ rest) = digits ++ rest := by
  cases digits with
  | nil => exact absurd rfl nonempty
  | cons c digits => exact skipBlanks_cons (isBlank_of_isDigit (allDigits c (by simp))) _

end Text

namespace Calendar

variable {digits rest : List Char} {n width : Nat}

theorem takeNumber_exact (allDigits : AllDigits digits) (nonempty : digits ≠ [])
    (rest : List Char) :
    takeNumber digits.length (digits ++ rest) = some (valueOf digits, rest) := by
  have whole : digits.takeWhile Char.isDigit = digits := by
    simpa using takeWhile_digits allDigits stops_nil
  rw [takeNumber, List.take_left, whole]
  simp [nonempty]

theorem takeNumber_all (allDigits : AllDigits digits) (nonempty : digits ≠ [])
    (stops : Stops rest) :
    takeNumber (digits ++ rest).length (digits ++ rest) = some (valueOf digits, rest) := by
  rw [takeNumber, List.take_length, takeWhile_digits allDigits stops]
  simp [nonempty]

theorem padded_ne_nil (positive : 0 < width) (n : Nat) : padded width n ≠ [] := by
  have long := le_length_padded width n
  intro nothing
  rw [nothing, List.length_nil] at long
  omega

theorem takeNumber_padded (positive : 0 < width) (h : n < Nat.pow 10 width) (rest : List Char) :
    takeNumber width (padded width n ++ rest) = some (n, rest) := by
  have read := takeNumber_exact (allDigits_padded width n) (padded_ne_nil positive n) rest
  rwa [length_padded positive h, valueOf_padded] at read

theorem takeTwoDigits_padded (h : n < 100) (rest : List Char) :
    takeTwoDigits (padded 2 n ++ rest) = some (n, rest) := by
  rw [takeTwoDigits, Text.skipBlanks_digits (allDigits_padded 2 n) (padded_ne_nil (by decide) n),
    takeNumber_padded (by decide) h]

theorem exactNumber_padded (positive : 0 < width) (h : n < Nat.pow 10 width) (rest : List Char) :
    exactNumber width (padded width n ++ rest) = some (n, rest) := by
  have length := length_padded positive h
  have taken : (padded width n ++ rest).take width = padded width n := List.take_left' length
  have dropped : (padded width n ++ rest).drop width = rest := List.drop_left' length
  have allDigits : (padded width n).all Char.isDigit = true :=
    List.all_eq_true.mpr (allDigits_padded width n)
  simp only [exactNumber, taken, dropped, length, allDigits, and_self, if_true, valueOf_padded]

theorem exactlyTwoDigits_padded (h : n < 100) (rest : List Char) :
    exactlyTwoDigits (padded 2 n ++ rest) = some (n, rest) := by
  have value := valueOf_padded 2 n
  have first := isDigit_digitChar (show n / 10 < 10 by omega)
  have second := isDigit_digitChar (show n % 10 < 10 by omega)
  rw [padded_two h] at value ⊢
  simp only [List.cons_append, List.nil_append, exactlyTwoDigits, first, second, Bool.and_self,
    if_true, value]

theorem takeYear_of_isDigit {c : Char} (isDigit : c.isDigit = true) (rest : List Char) :
    takeYear (c :: rest) = (takeNumber 4 (c :: rest)).map fun (n, rest) => ((n : Int), rest) := by
  rw [takeYear, Text.skipBlanks_cons (Text.isBlank_of_isDigit isDigit)]
  split
  · rename_i h
    cases h
    cases isDigit
  · rename_i h
    cases h
    cases isDigit
  · rfl

theorem takeYear_text (year : Int) (stops : Stops rest) :
    takeYear (yearText year ++ rest) = some (year, rest) := by
  unfold yearText
  by_cases short : 0 ≤ year ∧ year ≤ 9999
  · have small : year.toNat < 10000 := by omega
    have value : (year.toNat : Int) = year := by omega
    have four := takeNumber_padded (show 0 < 4 by decide) small rest
    obtain ⟨c, others, shown⟩ := List.exists_cons_of_ne_nil
      (padded_ne_nil (show 0 < 4 by decide) year.toNat)
    have first : c.isDigit = true := allDigits_padded 4 year.toNat c (by simp [shown])
    rw [if_pos short, shown, List.cons_append, takeYear_of_isDigit first, ← List.cons_append,
      ← shown, four]
    simp only [Option.map_some, value]
  · have all := takeNumber_all (allDigits_padded 4 year.natAbs)
      (padded_ne_nil (by decide) year.natAbs) stops
    rw [valueOf_padded] at all
    rw [if_neg short]
    by_cases negative : year < 0
    · have value : -(year.natAbs : Int) = year := by omega
      have minus : Text.isBlank '-' = false := by decide
      rw [if_pos negative, List.cons_append, takeYear, Text.skipBlanks_cons minus]
      simp only [all, Option.map_some, value]
    · have value : (year.natAbs : Int) = year := by omega
      have plus : Text.isBlank '+' = false := by decide
      rw [if_neg negative, List.cons_append, takeYear, Text.skipBlanks_cons plus]
      simp only [all, Option.map_some, value]

def EndsNumber (text : List Char) : Prop :=
  ∀ c rest, text = c :: rest → c.isDigit = false ∧ c ≠ '.'

theorem EndsNumber.stops (ends : EndsNumber rest) : Stops rest :=
  fun c others h => (ends c others h).1

theorem endsNumber_nil : EndsNumber [] := by
  intro c rest h
  cases h

theorem takeNanos_padded (positive : 0 < width) (narrow : width ≤ 9) (h : n < Nat.pow 10 width)
    (stops : Stops rest) :
    takeNanos (padded width n ++ rest) = some (n * Nat.pow 10 (9 - width), rest) := by
  have length := length_padded positive h
  have counted : (padded width n).take 9 = padded width n := List.take_of_length_le (by omega)
  have dropped : (padded width n ++ rest).drop width = rest := List.drop_left' length
  rw [takeNanos, takeWhile_digits (allDigits_padded width n) stops]
  simp [padded_ne_nil positive n, counted, length, dropped, valueOf_padded]

theorem takeFraction_text (h : n < 1000000000) (ends : EndsNumber rest) :
    takeFraction (fractionText n ++ rest) = some (if n = 0 then none else some n, rest) := by
  have read : ∀ width m, 0 < width → width ≤ 9 → m < Nat.pow 10 width →
      takeFraction ('.' :: padded width m ++ rest) =
        some (some (m * Nat.pow 10 (9 - width)), rest) := by
    intro width m positive narrow small
    rw [List.cons_append, takeFraction, takeNanos_padded positive narrow small ends.stops]
    rfl
  unfold fractionText
  by_cases zero : n = 0
  · rw [if_pos zero, if_pos zero, List.nil_append]
    unfold takeFraction
    split
    · exact absurd rfl (ends '.' _ rfl).2
    · rfl
  · rw [if_neg zero, if_neg zero]
    by_cases milli : n % 1000000 = 0
    · have value : n / 1000000 * Nat.pow 10 (9 - 3) = n := by
        change n / 1000000 * 1000000 = n
        omega
      have small : n / 1000000 < 1000 := by omega
      rw [if_pos milli, read 3 _ (by decide) (by decide) small, value]
    · rw [if_neg milli]
      by_cases micro : n % 1000 = 0
      · have value : n / 1000 * Nat.pow 10 (9 - 6) = n := by
          change n / 1000 * 1000 = n
          omega
        have small : n / 1000 < 1000000 := by omega
        rw [if_pos micro, read 6 _ (by decide) (by decide) small, value]
      · have value : n * Nat.pow 10 (9 - 9) = n := Nat.mul_one n
        rw [if_neg micro, read 9 _ (by decide) (by decide) h, value]

theorem takeSign_sign (offset : Int) (rest : List Char) :
    takeSign (sign offset :: rest) = some (decide (offset < 0), rest) := by
  unfold sign
  by_cases negative : offset < 0
  · rw [if_pos negative, decide_eq_true negative]
    rfl
  · rw [if_neg negative, decide_eq_false negative]
    rfl

theorem takeOffset_text {between : List Char → Option (List Char)}
    (colon : ∀ n, n < 100 → ∀ rest, between (':' :: padded 2 n ++ rest) = some (padded 2 n ++ rest))
    {offset : Int} (whole : offset % 60 = 0) (small : offset.natAbs < 86400) (rest : List Char) :
    takeOffset between (offsetText offset ++ rest) = some (offset, rest) := by
  have minutes : (offset.natAbs + 30) / 60 = offset.natAbs / 60 := by omega
  have hours : offset.natAbs / 60 / 60 < 100 := by omega
  have sixty : offset.natAbs / 60 % 60 < 60 := by omega
  have hundred : offset.natAbs / 60 % 60 < 100 := by omega
  have text : offsetText offset ++ rest = sign offset :: (padded 2 (offset.natAbs / 60 / 60) ++
      (':' :: padded 2 (offset.natAbs / 60 % 60) ++ rest)) := by
    simp only [offsetText, minutes, List.cons_append, List.nil_append, List.append_assoc]
  rw [text, takeOffset, takeSign_sign]
  simp only [Option.bind_eq_bind, Option.bind_some, exactlyTwoDigits_padded hours,
    colon _ hundred, exactlyTwoDigits_padded hundred, sixty, if_true]
  by_cases negative : offset < 0
  · simp only [negative, decide_true, if_true]
    congr 2
    omega
  · simp only [negative, decide_false, Bool.false_eq_true, if_false]
    congr 2
    omega

theorem skipColons_colon (rest : List Char) {n : Nat} :
    skipColons (':' :: padded 2 n ++ rest) = padded 2 n ++ rest := by
  obtain ⟨c, others, shown⟩ := List.exists_cons_of_ne_nil (padded_ne_nil (show 0 < 2 by decide) n)
  have first : c.isDigit = true := allDigits_padded 2 n c (by simp [shown])
  have other : c ≠ ':' := by
    rintro rfl
    cases first
  rw [skipColons, List.cons_append, List.dropWhile_cons_of_pos (by decide), shown, List.cons_append,
    List.dropWhile_cons_of_neg (by simp [other, Text.isBlank_of_isDigit first])]

end Calendar

end ArgCheck
