import ArgCheck.Error
import ArgCheck.Logging.Settings
import ArgCheck.Settings.Reader

set_option autoImplicit false

/-!
# Errors of settings

What can go wrong when settings are read, overridden by environment variables or checked.
-/

namespace ArgCheck

inductive SettingsError where
  | fileNotFound (path : String)
  /-- A directory, or a file that is no text. -/
  | unreadable (path : String)
  /-- The text does not spell settings in its format. -/
  | unparsable (format : TextFormat)
  /-- Neither of the two formats; for a file, its path. -/
  | unsupportedFormat (format : String)
  | invalidLevel (error : LogError)
  | notBoolean (name : String)
  | notFormat (name : String)
  | schema (name : String) (error : ArgumentError)
  deriving DecidableEq, Repr

namespace SettingsError

def variableMessage (name expected : String) : String :=
  "failed to parse environment variable " ++ name ++ ": expected " ++ expected

/-- A text that cannot be parsed has no message of its own. -/
def message? : SettingsError → Option String
  | .fileNotFound path => some ("configuration file not found: " ++ path)
  | .unreadable path => some ("failed to read configuration file: " ++ path)
  | .unparsable _ => none
  | .unsupportedFormat format => some ("unsupported configuration format: " ++ format)
  | .invalidLevel error => some ("invalid configuration value for logging.level: " ++ error.message)
  | .notBoolean name => some (variableMessage name "boolean")
  | .notFormat name => some (variableMessage name "'json', 'pretty' or 'compact'")
  | .schema name _ => some ("invalid argument schema `" ++ name ++ "`")

def source? : SettingsError → Option String
  | .schema _ error => some error.message
  | _ => none

end SettingsError

end ArgCheck
