import ArgCheck.Settings.Check
import ArgCheck.Settings.Files
import ArgCheck.Text.Capitals
import ArgCheck.VariableFile.Reader

set_option autoImplicit false

/-!
# Loading settings

Settings are loaded in layers. A preset, a text or a file replaces what came before it; a file of
variables and a prefix for variables count only when loading ends, where variables override single
settings and the settings are checked.
-/

namespace ArgCheck

inductive Preset where
  | development
  | production
  deriving DecidableEq, Repr

namespace Preset

def settings : Preset → Settings
  | .development => .development
  | .production => .production

end Preset

inductive Layer where
  | preset (p : Preset)
  | text (format content : String)
  | file (path : String)
  /-- A file that may be missing. -/
  | optionalFile (path : String)
  /-- The variables in the nearest file `.env`, if there is one. -/
  | variableFile
  /-- The prefix of the variables that override settings. -/
  | variablePrefix (name : String)

structure Loader where
  files : Files
  environment : Environment
  settings : Settings := {}
  /-- The prefix of variables, in capitals. -/
  marker : Option String := none

namespace Loader

def parse (format : TextFormat) (content : String) : Except SettingsError Settings :=
  match (format.read? content).bind (Settings.ofJson? format) with
  | some settings => .ok settings
  | none => .error (.unparsable format)

def parseText (format content : String) : Except SettingsError Settings :=
  match TextFormat.ofName? format with
  | some known => parse known content
  | none => .error (.unsupportedFormat format)

def parseFile (path content : String) : Except SettingsError Settings :=
  match (Files.extension? path).bind TextFormat.ofName? with
  | some format => parse format content
  | none => .error (.unsupportedFormat path)

def readFile (files : Files) (path : String) : Except SettingsError Settings :=
  match files.find? path with
  | none => .error (.fileNotFound path)
  | some .directory => .error (.unreadable path)
  | some (.bytes content) =>
    match String.fromUTF8? content with
    | some text => parseFile path text
    | none => .error (.unreadable path)

def replace (loader : Loader) (settings : Settings) : Loader := { loader with settings }

def addVariableFile (loader : Loader) : Loader :=
  match loader.files.nearest? ".env" with
  | some content => { loader with environment := loader.environment.addFile content }
  | none => loader

def apply (loader : Loader) : Layer → Except SettingsError Loader
  | .preset p => .ok (loader.replace p.settings)
  | .text format content => (parseText format content).map loader.replace
  | .file path => (readFile loader.files path).map loader.replace
  | .optionalFile path =>
    if (loader.files.find? path).isSome then (readFile loader.files path).map loader.replace
    else .ok loader
  | .variableFile => .ok loader.addVariableFile
  | .variablePrefix name => .ok { loader with marker := some (Text.inCapitals name) }

def applyAll (loader : Loader) (layers : List Layer) : Except SettingsError Loader :=
  layers.foldlM apply loader

def overridden (loader : Loader) : Except SettingsError Settings :=
  match loader.marker with
  | some marker => loader.settings.overrideAll marker loader.environment
  | none => .ok loader.settings

def load (loader : Loader) : Except SettingsError Settings := do
  let settings ← loader.overridden
  settings.check
  pure settings

end Loader

end ArgCheck
