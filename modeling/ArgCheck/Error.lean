set_option autoImplicit false

/-!
# Errors of declarations and arguments

What can go wrong when argument schemas are declared and when arguments are validated, with the
message of each cause. The kind of an error leaves out its details.
-/

namespace ArgCheck

inductive ErrorKind where
  | schemaDefinition
  | unknownSchema
  | invalidCallShape
  | missingArguments
  | unknownArguments
  | invalidArgumentType
  | entityNotFound
  | unresolvableEntityClass
  | entityStore
  | unknownFilterType
  | invalidFilterType
  deriving DecidableEq, Repr

namespace ErrorKind

def name : ErrorKind → String
  | .schemaDefinition => "SchemaDefinition"
  | .unknownSchema => "UnknownSchema"
  | .invalidCallShape => "InvalidCallShape"
  | .missingArguments => "MissingArguments"
  | .unknownArguments => "UnknownArguments"
  | .invalidArgumentType => "InvalidArgumentType"
  | .entityNotFound => "EntityNotFound"
  | .unresolvableEntityClass => "UnresolvableEntityClass"
  | .entityStore => "EntityStore"
  | .unknownFilterType => "UnknownFilterType"
  | .invalidFilterType => "InvalidFilterType"

end ErrorKind

inductive ArgumentError where
  /-- Arguments declared optional although they have a default. -/
  | schemaDefinition (schema : String) (arguments : List String)
  | unknownSchema (schema : String)
  /-- The arguments did not come as a map. -/
  | callShape (schema : String) (expected : List String)
  | missingArguments (schema : String) (names : List String)
  | unknownArguments (schema : String) (names : List String)
  | argumentType (argument expected : String)
  | entityNotFound (argument cls id : String)
  | unresolvableClass (argument cls : String)
  /-- An identifier came and there is no store to look it up in. -/
  | storeUnavailable (argument cls : String)
  | storeFailure (argument reason : String)
  | unknownType (tag : String)
  /-- A declared type that is neither a tag nor a type identifier. -/
  | invalidType (description : String)
  deriving DecidableEq, Repr

namespace ArgumentError

def kind : ArgumentError → ErrorKind
  | .schemaDefinition .. => .schemaDefinition
  | .unknownSchema .. => .unknownSchema
  | .callShape .. => .invalidCallShape
  | .missingArguments .. => .missingArguments
  | .unknownArguments .. => .unknownArguments
  | .argumentType .. => .invalidArgumentType
  | .entityNotFound .. => .entityNotFound
  | .unresolvableClass .. => .unresolvableEntityClass
  | .storeUnavailable .. => .entityStore
  | .storeFailure .. => .entityStore
  | .unknownType .. => .unknownFilterType
  | .invalidType .. => .invalidFilterType

def listed (names : List String) : String := ", ".intercalate names

def message : ArgumentError → String
  | .schemaDefinition schema arguments =>
    "optional and default can't be declared together in `" ++ schema ++ "`: " ++ listed arguments
  | .unknownSchema schema => "no argument schema registered as `" ++ schema ++ "`"
  | .callShape schema expected =>
    "incorrect arguments, `" ++ schema ++ "` must be called as `" ++ schema ++ "(" ++
      listed (expected.map fun name => name ++ ": value") ++ ")`"
  | .missingArguments schema names => "arguments missing for `" ++ schema ++ "`: " ++ listed names
  | .unknownArguments schema names => "unknown arguments for `" ++ schema ++ "`: " ++ listed names
  | .argumentType argument expected => "argument `" ++ argument ++ "` must be of type " ++ expected
  | .entityNotFound argument cls id =>
    "argument `" ++ argument ++ "`: " ++ cls ++ " record not found with id: " ++ id
  | .unresolvableClass argument cls =>
    "argument `" ++ argument ++ "` requires a valid entity class, got `" ++ cls ++ "`"
  | .storeUnavailable argument cls =>
    "argument `" ++ argument ++ "` needs an entity store to look up " ++ cls ++ " records"
  | .storeFailure argument _ => "entity store lookup failed for argument `" ++ argument ++ "`"
  | .unknownType tag => "unknown filter type: " ++ tag
  | .invalidType description =>
    "invalid filter type: " ++ description ++ ", must be a tag or a type identifier"

def source? : ArgumentError → Option String
  | .storeFailure _ reason => some reason
  | _ => none

end ArgumentError

end ArgCheck
