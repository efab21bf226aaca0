import ArgCheck.Proofs.Settings.Overriding
import Mathlib.Data.List.Forall2

set_option autoImplicit false

/-!
# Words in variables

Flags and formats are read from a few words, in which any letter may be a capital. No other text is read,
not even one of these words between blanks.
-/

namespace ArgCheck

namespace Text

/-- The text is the word, with any of its letters as capitals. -/
def Spells (word text : String) : Prop :=
  List.Forall₂ (fun letter c => c = letter ∨ c = letter.toUpper) word.toList text.toList

instance (word text : String) : Decidable (Spells word text) :=
  inferInstanceAs (Decidable (List.Forall₂ _ _ _))

theorem toNat_toLower (c : Char) :
    c.toLower.toNat = if 65 ≤ c.toNat ∧ c.toNat ≤ 90 then c.toNat + 32 else c.toNat := by
  unfold Char.toLower
  split
  case isTrue capital =>
    have capital : 65 ≤ c.toNat ∧ c.toNat ≤ 90 := capital
    have moved : (c.val + ('a'.val - 'A'.val)).toNat = (c.toNat + 32) % 2 ^ 32 :=
      UInt32.toNat_add c.val _
    rw [if_pos capital]
    exact moved.trans (Nat.mod_eq_of_lt (by omega))
  case isFalse other => exact (if_neg other).symm

theorem toNat_toUpper (c : Char) :
    c.toUpper.toNat = if 97 ≤ c.toNat ∧ c.toNat ≤ 122 then c.toNat - 32 else c.toNat := by
  unfold Char.toUpper
  split
  case isTrue letter =>
    have letter : 97 ≤ c.toNat ∧ c.toNat ≤ 122 := letter
    have moved : (c.val + ('A'.val - 'a'.val)).toNat = (c.toNat + 4294967264) % 2 ^ 32 :=
      UInt32.toNat_add c.val _
    rw [if_pos letter]
    exact moved.trans (by omega)
  case isFalse other => exact (if_neg other).symm

theorem toLower_eq_iff {letter : Char} (small : letter.toLower = letter) (c : Char) :
    c.toLower = letter ↔ c = letter ∨ c = letter.toUpper := by
  rw [← Char.toNat_inj, toNat_toLower] at small
  rw [← Char.toNat_inj, ← Char.toNat_inj, ← Char.toNat_inj, toNat_toLower, toNat_toUpper]
  split at small <;> split <;> split <;> omega

theorem toLower_eq_word_iff {word : String} (small : word.toList.map Char.toLower = word.toList)
    (text : String) : text.toLower = word ↔ Spells word text := by
  have lowered : text.toLower.toList = text.toList.map Char.toLower := String.toList_map
  rw [← String.toList_inj, lowered, Spells]
  generalize text.toList = read
  generalize word.toList = letters at *
  induction letters generalizing read with
  | nil => simp
  | cons letter letters ih =>
    obtain ⟨here, later⟩ := List.cons.inj small
    cases read with
    | nil => simp
    | cons c read => simp [toLower_eq_iff here, ih read later]

end Text

namespace Settings

def flagWords : Bool → List String
  | true => ["true", "1", "yes", "on"]
  | false => ["false", "0", "no", "off"]

theorem spelledFlag?_eq_some_iff (text : String) (b : Bool) :
    spelledFlag? text = some b ↔ ∃ word ∈ flagWords b, Text.Spells word text := by
  have small : ∀ word ∈ flagWords b, word.toList.map Char.toLower = word.toList := by
    cases b <;> decide
  have words : (∃ word ∈ flagWords b, Text.Spells word text) ↔ text.toLower ∈ flagWords b := by
    constructor
    · rintro ⟨word, member, spells⟩
      exact (Text.toLower_eq_word_iff (small word member) text).mpr spells ▸ member
    · intro member
      exact ⟨_, member, (Text.toLower_eq_word_iff (small _ member) text).mp rfl⟩
  have apart : text.toLower ∈ flagWords false → text.toLower ∉ flagWords true :=
    (by decide : ∀ word ∈ flagWords false, word ∉ flagWords true) _
  have flag : spelledFlag? text = if (flagWords true).contains text.toLower then some true
      else if (flagWords false).contains text.toLower then some false else none := rfl
  simp only [words, flag, List.contains_iff_mem]
  cases b <;> grind

theorem spelledFormat?_eq_some_iff (text : String) (format : LogFormat) :
    spelledFormat? text = some format ↔ Text.Spells format.name text := by
  rw [spelledFormat?, LogFormat.ofName?_eq_some_iff]
  refine Text.toLower_eq_word_iff ?_ text
  cases format <;> decide

end Settings

theorem Setting.reads_iff (s : Setting) (text : String) : s.reads text = true ↔ match s with
    | .level => True
    | .format => ∃ format : LogFormat, Text.Spells format.name text
    | _ => ∃ b, ∃ word ∈ Settings.flagWords b, Text.Spells word text := by
  have flag : (Settings.spelledFlag? text).isSome = true ↔
      ∃ b, ∃ word ∈ Settings.flagWords b, Text.Spells word text := by
    simp only [Option.isSome_iff_exists, Settings.spelledFlag?_eq_some_iff]
  cases s with
  | level => exact iff_true_intro rfl
  | format => simp only [reads, Option.isSome_iff_exists, Settings.spelledFormat?_eq_some_iff]
  | _ => exact flag

end ArgCheck
