set_option autoImplicit false

/-!
# Blanks

The characters with the property White_Space, and text without them at its ends or without a mark before it.
-/

namespace ArgCheck.Text

/-- The property White_Space. -/
def isBlank (c : Char) : Bool :=
  let n := c.toNat
  (9 ≤ n && n ≤ 13) || n == 0x20 || n == 0x85 || n == 0xA0 || n == 0x1680 ||
    (0x2000 ≤ n && n ≤ 0x200A) || n == 0x2028 || n == 0x2029 || n == 0x202F || n == 0x205F ||
    n == 0x3000

theorem isBlank_of_isWhitespace (c : Char) (h : c.isWhitespace = true) : isBlank c = true := by
  simp only [Char.isWhitespace, Bool.or_eq_true, decide_eq_true_eq] at h
  rcases h with ((rfl | rfl) | rfl) | rfl <;> decide

def skipBlanks (text : List Char) : List Char := text.dropWhile isBlank

def trim (text : List Char) : List Char := (skipBlanks (skipBlanks text).reverse).reverse

def dropMark : List Char → List Char
  | '\ufeff' :: rest => rest
  | text => text

theorem head_skipBlanks {c : Char} {text rest : List Char} (h : skipBlanks text = c :: rest) :
    isBlank c = false := by
  induction text with
  | nil => simp [skipBlanks] at h
  | cons d text ih =>
    unfold skipBlanks at ih h
    by_cases hd : isBlank d = true
    · rw [List.dropWhile_cons_of_pos hd] at h
      exact ih h
    · rw [List.dropWhile_cons_of_neg hd] at h
      simp only [List.cons.injEq] at h
      rw [← h.1]
      simpa using hd

end ArgCheck.Text
