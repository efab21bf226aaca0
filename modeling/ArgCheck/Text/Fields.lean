set_option autoImplicit false

/-!
# Separated text

The parts of a text between separators. A text without a separator is its own only part, and putting
the separators back gives the text (`joined_fields`).
-/

namespace ArgCheck.Text

def extend (c : Char) : List (List Char) → List (List Char)
  | [] => [[c]]
  | part :: parts => (c :: part) :: parts

def fields (separator : Char) : List Char → List (List Char)
  | [] => [[]]
  | c :: rest =>
    if c = separator then [] :: fields separator rest else extend c (fields separator rest)

def joined (separator : Char) : List (List Char) → List Char
  | [] => []
  | [part] => part
  | part :: parts => part ++ separator :: joined separator parts

theorem fields_ne_nil (separator : Char) (text : List Char) : fields separator text ≠ [] := by
  cases text with
  | nil => simp [fields]
  | cons c rest =>
    simp only [fields]
    split
    · simp
    · cases fields separator rest <;> simp [extend]

theorem joined_fields (separator : Char) (text : List Char) :
    joined separator (fields separator text) = text := by
  induction text with
  | nil => rfl
  | cons c rest ih =>
    have filled := fields_ne_nil separator rest
    simp only [fields]
    by_cases h : c = separator
    · subst h
      cases hf : fields c rest with
      | nil => exact absurd hf filled
      | cons part parts =>
        rw [hf] at ih
        simp [joined, ih]
    · cases hf : fields separator rest with
      | nil => exact absurd hf filled
      | cons part parts =>
        rw [hf] at ih
        cases parts with
        | nil => simpa [h, extend, joined] using ih
        | cons next parts => simpa [h, extend, joined] using ih

end ArgCheck.Text
