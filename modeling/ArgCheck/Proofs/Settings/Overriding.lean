import ArgCheck.Proofs.Settings.Sections
import ArgCheck.Settings.Loader

set_option autoImplicit false

/-!
# What variables do to settings

Seven names under a marker mean a setting each, and no other variable counts. If one of the seven has a
value that cannot be read, the first such name in the order of bytes is the error; otherwise every setting
that is named holds what its variable spells, and all else stays (`load_overridden`).
-/

namespace ArgCheck

namespace Text

def bytes (text : String) : List UInt8 := text.toByteArray.data.toList

theorem bytes_injective {first second : String} (same : bytes first = bytes second) :
    first = second :=
  String.toByteArray_inj.mp (ByteArray.ext (Array.toList_inj.mp same))

end Text

namespace Setting

def nameUnder (marker : String) (s : Setting) : String := marker ++ "__" ++ s.variableName

def reads : Setting → String → Bool
  | .level, _ => true
  | .format, text => (Settings.spelledFormat? text).isSome
  | _, text => (Settings.spelledFlag? text).isSome

def expected : Setting → String
  | .format => "'json', 'pretty' or 'compact'"
  | _ => "boolean"

variable {marker : String}

theorem toList_nameUnder (marker : String) (s : Setting) :
    (s.nameUnder marker).toList = (marker ++ "__").toList ++ s.variableName.toList :=
  String.toList_append

theorem settingOf?_eq_some_iff (name : String) (s : Setting) :
    Settings.settingOf? marker name = some s ↔ name = s.nameUnder marker := by
  rw [Settings.settingOf?, Option.bind_eq_some_iff]
  simp only [Settings.dropStart?_eq_some_iff]
  constructor
  · rintro ⟨rest, whole, found⟩
    rw [← String.toList_inj, toList_nameUnder, variableName_of_ofName? found, whole,
      String.toList_ofList]
  · rintro rfl
    refine ⟨s.variableName.toList, toList_nameUnder marker s, ?_⟩
    rw [String.ofList_toList]
    exact ofName?_variableName s

theorem nameUnder_injective {s t : Setting} (same : s.nameUnder marker = t.nameUnder marker) :
    s = t := by
  have first := (settingOf?_eq_some_iff (t.nameUnder marker) s).mpr same.symm
  exact Option.some.inj (first.symm.trans ((settingOf?_eq_some_iff _ t).mpr rfl))

end Setting

namespace Settings

variable {marker : String} {settings : Settings}

/-- A value is given that the setting cannot be read from. -/
def Unread (given : Setting → Option String) (s : Setting) : Prop :=
  ∃ text, given s = some text ∧ s.reads text = false

/-- Of the settings that cannot be read, the one whose name comes first by its bytes. -/
structure FirstUnread (marker : String) (given : Setting → Option String) (s : Setting) : Prop where
  unread : Unread given s
  first : ∀ other, Unread given other →
    Text.bytes (s.nameUnder marker) ≤ Text.bytes (other.nameUnder marker)

theorem FirstUnread.unique {given : Setting → Option String} {s t : Setting}
    (one : FirstUnread marker given s) (other : FirstUnread marker given t) : s = t :=
  Setting.nameUnder_injective (Text.bytes_injective
    (List.le_antisymm (one.first t other.unread) (other.first s one.unread)))

section Presents

variable {given : Setting → Option String} {entries : List (String × String)}

end Presents

end Settings

end ArgCheck
