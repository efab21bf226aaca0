set_option autoImplicit false

/-!
# Text by bytes

Places in a text are counted in bytes of its encoding, where a character takes up to four. Cutting a
text at a place and putting both halves together gives the text (`takeBytes_append_dropBytes`).
-/

namespace ArgCheck.Text

def byteCount (text : List Char) : Nat := text.foldr (fun c count => c.utf8Size + count) 0

/-- The characters that begin before a place. -/
def takeBytes (count : Nat) : List Char → List Char
  | [] => []
  | c :: rest => if count = 0 then [] else c :: takeBytes (count - c.utf8Size) rest

def dropBytes (count : Nat) : List Char → List Char
  | [] => []
  | c :: rest => if count = 0 then c :: rest else dropBytes (count - c.utf8Size) rest

theorem takeBytes_append_dropBytes (count : Nat) (text : List Char) :
    takeBytes count text ++ dropBytes count text = text := by
  induction text generalizing count with
  | nil => rfl
  | cons c rest ih =>
    by_cases h : count = 0
    · simp [takeBytes, dropBytes, h]
    · simp [takeBytes, dropBytes, h, ih]

end ArgCheck.Text
