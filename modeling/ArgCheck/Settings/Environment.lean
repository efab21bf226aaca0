import ArgCheck.Settings.Error

set_option autoImplicit false

/-!
# Environment variables

Variables override single settings. A variable is meant if its name is the prefix, two underscores,
and the name of a setting in capitals; any other under the prefix is overlooked. Variables come in the
order of their names.
-/

namespace ArgCheck

abbrev Environment := Table String String

inductive Setting where
  | enabled
  | level
  | format
  | spanEvents
  | includeLocation
  | includeTarget
  | builtinHandlers
  deriving DecidableEq, Repr

namespace Setting

def all : List Setting :=
  [.enabled, .level, .format, .spanEvents, .includeLocation, .includeTarget, .builtinHandlers]

def variableName : Setting → String
  | .enabled => "LOGGING__ENABLED"
  | .level => "LOGGING__LEVEL"
  | .format => "LOGGING__FORMAT"
  | .spanEvents => "LOGGING__SPAN_EVENTS"
  | .includeLocation => "LOGGING__INCLUDE_LOCATION"
  | .includeTarget => "LOGGING__INCLUDE_TARGET"
  | .builtinHandlers => "REGISTRY__BUILTIN_TYPE_HANDLERS"

def ofName? (name : String) : Option Setting := all.find? fun s => s.variableName == name

theorem mem_all (s : Setting) : s ∈ all := by
  cases s <;> decide

theorem ofName?_variableName (s : Setting) : ofName? s.variableName = some s := by
  cases s <;> decide

end Setting

namespace Settings

/-- True and false as variables may spell them, in capitals or small letters. -/
def spelledFlag? (text : String) : Option Bool :=
  if ["true", "1", "yes", "on"].contains text.toLower then some true
  else if ["false", "0", "no", "off"].contains text.toLower then some false
  else none

def spelledFormat? (text : String) : Option LogFormat := LogFormat.ofName? text.toLower

def flagOf (name text : String) : Except SettingsError Bool :=
  match spelledFlag? text with
  | some b => .ok b
  | none => .error (.notBoolean name)

def formatOf (name text : String) : Except SettingsError LogFormat :=
  match spelledFormat? text with
  | some format => .ok format
  | none => .error (.notFormat name)

def withLogging (settings : Settings) (logging : LogSettings) : Settings :=
  { settings with logging }

def override (settings : Settings) (name text : String) : Setting → Except SettingsError Settings
  | .enabled => (flagOf name text).map fun enabled =>
    settings.withLogging { settings.logging with enabled }
  | .level => .ok (settings.withLogging { settings.logging with level := text })
  | .format => (formatOf name text).map fun format =>
    settings.withLogging { settings.logging with format }
  | .spanEvents => (flagOf name text).map fun spanEvents =>
    settings.withLogging { settings.logging with spanEvents }
  | .includeLocation => (flagOf name text).map fun includeLocation =>
    settings.withLogging { settings.logging with includeLocation }
  | .includeTarget => (flagOf name text).map fun includeTarget =>
    settings.withLogging { settings.logging with includeTarget }
  | .builtinHandlers => (flagOf name text).map fun builtinHandlers =>
    { settings with builtinHandlers }

def dropStart? : List Char → List Char → Option (List Char)
  | [], text => some text
  | c :: start, d :: text => if c = d then dropStart? start text else none
  | _ :: _, [] => none

/-- The setting that a variable means. -/
def settingOf? (marker name : String) : Option Setting :=
  (dropStart? (marker ++ "__").toList name.toList).bind fun rest =>
    Setting.ofName? (String.ofList rest)

def overrideBy (marker : String) (settings : Settings) (entry : String × String) :
    Except SettingsError Settings :=
  match settingOf? marker entry.1 with
  | some setting => settings.override entry.1 entry.2 setting
  | none => .ok settings

def sorted (environment : Environment) : List (String × String) :=
  environment.entries.mergeSort fun a b => a.1 ≤ b.1

def overrideAll (settings : Settings) (marker : String) (environment : Environment) :
    Except SettingsError Settings :=
  (sorted environment).foldlM (overrideBy marker) settings

end Settings

namespace Environment

/-- A variable that is set keeps its value. -/
def addMissing (environment : Environment) (name value : String) : Environment :=
  if environment.contains name then environment else environment.insert name value

end Environment

end ArgCheck
