import ArgCheck.Logging.Directive

set_option autoImplicit false

/-!
# Logging settings

Whether and how events are written, with the presets for development and for production. Logging can
be set up if it is disabled or its directive has no fault.
-/

namespace ArgCheck

inductive LogFormat where
  | json
  | pretty
  | compact
  deriving DecidableEq, Repr

namespace LogFormat

def name : LogFormat → String
  | .json => "json"
  | .pretty => "pretty"
  | .compact => "compact"

def ofName? (name : String) : Option LogFormat :=
  [json, pretty, compact].find? fun format => format.name == name

theorem ofName?_name (format : LogFormat) : ofName? format.name = some format := by
  cases format <;> decide

theorem ofName?_eq_some_iff (name : String) (format : LogFormat) :
    ofName? name = some format ↔ name = format.name := by
  constructor
  · intro found
    have same : format.name = name := by simpa using List.find?_some found
    exact same.symm
  · rintro rfl
    exact ofName?_name format

end LogFormat

structure LogSettings where
  enabled : Bool := true
  /-- The filter directive. -/
  level : String := "info"
  format : LogFormat := .json
  spanEvents : Bool := false
  includeLocation : Bool := false
  includeTarget : Bool := true
  deriving DecidableEq, Repr

structure LogError where
  directive : String
  fault : Directive.Fault
  deriving DecidableEq, Repr

namespace LogError

def message (error : LogError) : String :=
  "invalid log filter `" ++ error.directive ++ "`: " ++ error.fault.message

end LogError

namespace LogSettings

def development : LogSettings where
  level := "sieve=debug,sieve_args=trace,info"
  format := .pretty
  spanEvents := true
  includeLocation := true

def production : LogSettings := {}

def checkDirective (directive : String) : Except LogError Unit :=
  (Directive.check directive).mapError fun fault => ⟨directive, fault⟩

def check (settings : LogSettings) : Except LogError Unit :=
  if settings.enabled then checkDirective settings.level else .ok ()

end LogSettings

end ArgCheck
