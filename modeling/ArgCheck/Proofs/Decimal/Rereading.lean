import ArgCheck.Decimal.Reader
import ArgCheck.Proofs.Numeral.Digits

set_option autoImplicit false

/-!
# Reading the text of a decimal

The text of a decimal shows all digits of its coefficient, and as many after the point as the scale
says. Read again it gives the same coefficient and scale, and the same sign but for a zero, which has
none (`read?_text`).
-/

namespace ArgCheck.Decimal

open Numeral

variable {digits rest : List Char} {coefficient scale : Nat}

theorem scan_whole (allDigits : AllDigits digits) (hasDigit : Bool)
    (fits : continued coefficient digits < coefficientLimit) :
    scan false hasDigit coefficient scale (digits ++ rest) =
      scan false (hasDigit || !digits.isEmpty) (continued coefficient digits) scale rest := by
  induction digits generalizing coefficient hasDigit with
  | nil => simp [continued]
  | cons c digits ih =>
    have isDigit : c.isDigit = true := allDigits c (by simp)
    have below : AllDigits digits := fun d member => allDigits d (by simp [member])
    change continued (10 * coefficient + digitValue c) digits < coefficientLimit at fits
    have longer : 10 * coefficient + digitValue c < coefficientLimit :=
      Nat.lt_of_le_of_lt (le_continued _ digits) fits
    have step := ih below true fits
    rw [List.cons_append, scan]
    simp only [Bool.false_eq_true, false_and, if_false, isDigit, if_true, longer]
    rw [step]
    simp [continued]

theorem scan_fraction (allDigits : AllDigits digits)
    (fits : continued coefficient digits < coefficientLimit) (room : scale + digits.length ≤ 28) :
    scan true true coefficient scale digits =
      some (continued coefficient digits, scale + digits.length) := by
  induction digits generalizing coefficient scale with
  | nil => rfl
  | cons c digits ih =>
    have isDigit : c.isDigit = true := allDigits c (by simp)
    have below : AllDigits digits := fun d member => allDigits d (by simp [member])
    rw [List.length_cons] at room
    change continued (10 * coefficient + digitValue c) digits < coefficientLimit at fits
    have longer : 10 * coefficient + digitValue c < coefficientLimit :=
      Nat.lt_of_le_of_lt (le_continued _ digits) fits
    have place : scale ≠ 28 := by omega
    have step := ih below fits (show scale + 1 + digits.length ≤ 28 by omega)
    have length : scale + 1 + digits.length = scale + (digits.length + 1) := by omega
    rw [scan]
    simp only [place, and_false, if_false, isDigit, if_true, longer]
    rw [step, length]
    rfl

def unsignedZero (d : Decimal) : Decimal :=
  { d with negative := d.negative && d.coefficient != 0 }

theorem unsignedZero_self {d : Decimal} (h : d.negative = false ∨ d.coefficient ≠ 0) :
    d.unsignedZero = d := by
  obtain ⟨negative, coefficient, scale, _, _⟩ := d
  rcases h with rfl | nonzero
  · rfl
  · simp [unsignedZero, bne_iff_ne.mpr nonzero]

theorem signed_unsignedZero (d : Decimal) : d.unsignedZero.signed = d.signed := by
  obtain ⟨negative, coefficient, scale, _, _⟩ := d
  cases negative with
  | false => rfl
  | true => by_cases zero : coefficient = 0 <;> simp [unsignedZero, signed, zero]

def unsignedText (d : Decimal) : List Char :=
  let digits := padded (d.scale + 1) d.coefficient
  digits.take (digits.length - d.scale) ++
    if d.scale = 0 then [] else '.' :: digits.drop (digits.length - d.scale)

theorem text_eq (d : Decimal) : d.text = (if d.negative then ['-'] else []) ++ d.unsignedText :=
  List.append_assoc _ _ _

theorem scan_unsignedText (d : Decimal) :
    scan false false 0 0 d.unsignedText = some (d.coefficient, d.scale) := by
  generalize shown : padded (d.scale + 1) d.coefficient = digits
  have allDigits : AllDigits digits := shown ▸ allDigits_padded (d.scale + 1) d.coefficient
  have value : continued 0 digits = d.coefficient :=
    shown ▸ valueOf_padded (d.scale + 1) d.coefficient
  have long : d.scale + 1 ≤ digits.length := shown ▸ le_length_padded (d.scale + 1) d.coefficient
  have fits : continued 0 digits < coefficientLimit := value ▸ d.coefficient_lt
  rw [unsignedText, shown]
  by_cases point : d.scale = 0
  · have read : scan false false 0 0 (digits ++ []) = _ := scan_whole allDigits false fits
    have nonempty : digits ≠ [] := by
      rintro rfl
      simp at long
    rw [List.append_nil] at read
    simp only [point, Nat.sub_zero, List.take_length, if_true, List.append_nil, read, value]
    simp [scan, nonempty]
  · generalize whole : digits.take (digits.length - d.scale) = before
    generalize fraction : digits.drop (digits.length - d.scale) = after
    have split : before ++ after = digits := whole ▸ fraction ▸ List.take_append_drop _ digits
    have nonempty : before ≠ [] := by
      rintro rfl
      have := congrArg List.length whole
      rw [List.length_take, List.length_nil] at this
      omega
    have length : after.length = d.scale := by
      rw [← fraction, List.length_drop]
      omega
    have digitsBefore : AllDigits before := fun c member => allDigits c (by simp [← split, member])
    have digitsAfter : AllDigits after := fun c member => allDigits c (by simp [← split, member])
    have value : continued (continued 0 before) after = d.coefficient := by
      rw [← continued_append, split, value]
    have fitsAfter : continued (continued 0 before) after < coefficientLimit :=
      value ▸ d.coefficient_lt
    have fitsBefore : continued 0 before < coefficientLimit :=
      Nat.lt_of_le_of_lt (le_continued _ after) fitsAfter
    have atPoint : ∀ n, scan false true n 0 ('.' :: after) = scan true true n 0 after := by
      intro n
      rw [scan]
      simp
    have room : 0 + after.length ≤ 28 := by
      have := d.scale_le
      omega
    have read := scan_fraction digitsAfter fitsAfter room
    rw [if_neg point, scan_whole digitsBefore false fitsBefore]
    simp only [List.isEmpty_eq_false_iff.mpr nonempty, Bool.not_false, Bool.or_true]
    rw [atPoint, read, value, length, Nat.zero_add]

theorem head_unsignedText (d : Decimal) :
    ∃ c rest, d.unsignedText = c :: rest ∧ c.isDigit = true := by
  have long := le_length_padded (d.scale + 1) d.coefficient
  have allDigits := allDigits_padded (d.scale + 1) d.coefficient
  cases shown : padded (d.scale + 1) d.coefficient with
  | nil =>
    rw [shown] at long
    simp at long
  | cons c rest =>
    rw [shown] at long allDigits
    have first : (c :: rest).length - d.scale = rest.length - d.scale + 1 := by
      rw [List.length_cons] at long ⊢
      omega
    have front : (c :: rest).take ((c :: rest).length - d.scale) =
        c :: rest.take (rest.length - d.scale) := by
      rw [first, List.take_succ_cons]
    have text : d.unsignedText = c :: (rest.take (rest.length - d.scale) ++
        if d.scale = 0 then [] else '.' :: (c :: rest).drop ((c :: rest).length - d.scale)) := by
      simp only [unsignedText, shown, front, List.cons_append]
    exact ⟨c, _, text, allDigits c (by simp)⟩

theorem plain?_of_isDigit {c : Char} (isDigit : c.isDigit = true) (rest : List Char) :
    plain? (c :: rest) = (scan false false 0 0 (c :: rest)).bind (withSign false) := by
  unfold plain?
  split
  · rename_i h
    cases h
    cases isDigit
  · rename_i h
    cases h
    cases isDigit
  · rfl

theorem plain?_text (d : Decimal) : plain? d.text = some d.unsignedZero := by
  have read := scan_unsignedText d
  have made : withSign d.negative (d.coefficient, d.scale) = some d.unsignedZero :=
    make?_self d.unsignedZero
  rw [text_eq]
  cases negative : d.negative with
  | true =>
    rw [negative] at made
    simp only [if_true, List.cons_append, List.nil_append, plain?, read, Option.bind_some, made]
  | false =>
    rw [negative] at made
    obtain ⟨c, rest, shown, isDigit⟩ := head_unsignedText d
    rw [shown] at read ⊢
    simp only [Bool.false_eq_true, if_false, List.nil_append, plain?_of_isDigit isDigit, read,
      Option.bind_some, made]

theorem read?_text (d : Decimal) : read? d.text = some d.unsignedZero := by
  rw [read?, plain?_text, Option.some_or]

theorem solid_text (d : Decimal) : Text.Solid d.text := by
  have digits := solid_padded (d.scale + 1) d.coefficient
  have minus : Text.Solid (if d.negative then ['-'] else []) := by
    split
    · exact Text.solid_nil.cons (by decide)
    · exact Text.solid_nil
  have whole : ∀ count, Text.Solid ((padded (d.scale + 1) d.coefficient).take count) :=
    fun count c member => digits c (List.mem_of_mem_take member)
  have fraction : ∀ count, Text.Solid (if d.scale = 0 then []
      else '.' :: (padded (d.scale + 1) d.coefficient).drop count) := by
    intro count
    split
    · exact Text.solid_nil
    · have after : Text.Solid ((padded (d.scale + 1) d.coefficient).drop count) :=
        fun c member => digits c (List.mem_of_mem_drop member)
      exact after.cons (by decide)
  exact (minus.append (whole _)).append (fraction _)

theorem sameNumber_unsignedZero (d : Decimal) : d.unsignedZero.sameNumber d = true := by
  rw [sameNumber_iff, signed_unsignedZero]
  rfl

end ArgCheck.Decimal
