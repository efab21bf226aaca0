import ArgCheck.Numeral
import ArgCheck.Proofs.Text.Separators

set_option autoImplicit false

/-!
# Strings of digits

A number written with leading zeros up to a width is a string of that many digits whose value is the
number. A reader that takes all digits it finds stops at the first other character. Whole numbers are
read as they are written, whether or not the reader allows underscores.
-/

namespace ArgCheck.Numeral

def AllDigits (text : List Char) : Prop := ∀ c ∈ text, c.isDigit = true

def Stops (text : List Char) : Prop := ∀ c rest, text = c :: rest → c.isDigit = false

variable {text rest : List Char}

theorem stops_nil : Stops [] := by
  intro c rest h
  cases h

theorem stops_cons {c : Char} (h : c.isDigit = false) (rest : List Char) : Stops (c :: rest) := by
  intro d rest same
  cases same
  exact h

theorem takeWhile_digits (digits : AllDigits text) (stops : Stops rest) :
    (text ++ rest).takeWhile Char.isDigit = text := by
  rw [List.takeWhile_append_of_pos digits]
  cases rest with
  | nil => simp
  | cons c rest => rw [List.takeWhile_cons_of_neg (by simp [stops c rest rfl]), List.append_nil]

theorem continued_replicate_zero (count : Nat) : continued 0 (List.replicate count '0') = 0 := by
  induction count with
  | zero => rfl
  | succ count ih => exact ih

theorem valueOf_padded (width n : Nat) : valueOf (padded width n) = n := by
  have value := valueOf_digits n
  unfold valueOf at value ⊢
  rw [padded, continued_append, continued_replicate_zero, value]

theorem allDigits_padded (width n : Nat) : AllDigits (padded width n) := by
  intro c member
  rcases List.mem_append.mp member with zero | digit
  · rw [List.eq_of_mem_replicate zero]
    rfl
  · exact List.all_eq_true.mp (all_isDigit_digits n) c digit

theorem solid_padded (width n : Nat) : Text.Solid (padded width n) :=
  fun c member => Text.isBlank_of_isDigit (allDigits_padded width n c member)

theorem length_digits_le {n width : Nat} (positive : 0 < width) (h : n < Nat.pow 10 width) :
    (digits n).length ≤ width := by
  induction width generalizing n with
  | zero => cases positive
  | succ width ih =>
    rw [digits]
    split
    · simp
    · rename_i large
      have deeper : 0 < width := by
        rcases Nat.eq_zero_or_pos width with rfl | deeper
        · change n < 10 at h
          omega
        · exact deeper
      have smaller : n / 10 < Nat.pow 10 width := by
        have step : Nat.pow 10 (width + 1) = Nat.pow 10 width * 10 := rfl
        omega
      have shorter := ih deeper smaller
      simp only [List.length_append, List.length_singleton]
      omega

theorem length_padded {n width : Nat} (positive : 0 < width) (h : n < Nat.pow 10 width) :
    (padded width n).length = width := by
  have bound := length_digits_le positive h
  simp only [padded, List.length_append, List.length_replicate]
  omega

theorem le_length_padded (width n : Nat) : width ≤ (padded width n).length := by
  simp only [padded, List.length_append, List.length_replicate]
  omega

theorem padded_two {n : Nat} (h : n < 100) :
    padded 2 n = [digitChar (n / 10), digitChar (n % 10)] := by
  rw [padded, digits]
  split
  · rename_i small
    have tens : n / 10 = 0 := by omega
    have ones : n % 10 = n := by omega
    rw [tens, ones]
    rfl
  · rename_i large
    rw [digits, if_pos (by omega)]
    rfl

theorem le_continued (start : Nat) (text : List Char) : start ≤ continued start text := by
  induction text generalizing start with
  | nil => exact Nat.le_refl start
  | cons c rest ih =>
    have further := ih (10 * start + digitValue c)
    change start ≤ continued (10 * start + digitValue c) rest
    omega

theorem integer?_of_isDigit {c : Char} (isDigit : c.isDigit = true) (rest : List Char) :
    integer? (c :: rest) = (natural? (c :: rest)).map fun n => (n : Int) := by
  unfold integer?
  split
  · rename_i h
    cases h
    cases isDigit
  · rename_i h
    cases h
    cases isDigit
  · rfl

theorem integer?_signed (n : Int) : integer? (signed n) = some n := by
  unfold signed
  by_cases negative : n < 0
  · have value : -(n.natAbs : Int) = n := by omega
    rw [if_pos negative, integer?, natural?_digits]
    exact congrArg some value
  · have value : (n.natAbs : Int) = n := by omega
    obtain ⟨c, rest, shown⟩ := List.exists_cons_of_ne_nil (digits_ne_nil n.natAbs)
    have first : c.isDigit = true :=
      List.all_eq_true.mp (all_isDigit_digits n.natAbs) c (by simp [shown])
    rw [if_neg negative, shown, integer?_of_isDigit first, ← shown, natural?_digits]
    exact congrArg some value

theorem toInt64?_toInt (n : Int64) : toInt64? n.toInt = some n := by
  have low := Int64.le_toInt n
  have high := Int64.toInt_lt n
  have fits : inInt64 n.toInt = true := by
    simp only [inInt64, Bool.and_eq_true, decide_eq_true_eq]
    omega
  rw [toInt64?, if_pos fits, Int64.ofInt_toInt]

theorem int64?_signed (n : Int64) : int64? (signed n.toInt) = some n := by
  rw [int64?, integer?_signed, Option.bind_some, toInt64?_toInt]

theorem isDigit_or_minus {n : Int} {c : Char} (member : c ∈ signed n) :
    c.isDigit = true ∨ c = '-' := by
  have digit : c ∈ digits n.natAbs → c.isDigit = true :=
    List.all_eq_true.mp (all_isDigit_digits n.natAbs) c
  unfold signed at member
  split at member
  · rcases List.mem_cons.mp member with minus | member
    · exact .inr minus
    · exact .inl (digit member)
  · exact .inl (digit member)

theorem solid_signed (n : Int) : Text.Solid (signed n) := by
  intro c member
  rcases isDigit_or_minus member with digit | rfl
  · exact Text.isBlank_of_isDigit digit
  · decide

theorem separatedInt64?_signed (n : Int64) : separatedInt64? (signed n.toInt) = some n := by
  have plain : '_' ∉ signed n.toInt := by
    intro member
    rcases isDigit_or_minus member with digit | minus
    · cases digit
    · cases minus
  rw [separatedInt64?_of_notMem plain, int64?_signed]

end ArgCheck.Numeral
