import ArgCheck.Filter.Record
import ArgCheck.Filter.Scalar

set_option autoImplicit false

/-!
# Filters

A filter turns a value into the canonical form of one argument. Null passes, an accepted value stays,
and any other is cast. A container with a filter for its items applies that to each of them instead,
and the first failure is its own.
-/

namespace ArgCheck

structure CustomFilter where
  base : FilterBase
  typeName : String
  accepts : Value → Bool
  cast : Value → Traced ArgumentError Value
  process : Value → Traced ArgumentError Value := fun value =>
    if value.isNull || accepts value then pure value else cast value

inductive Filter where
  /-- A builtin type; only arrays and maps make use of a filter for their items. -/
  | builtin (b : Builtin) (base : FilterBase) (item : Option Filter)
  | record (filter : RecordFilter)
  | custom (filter : CustomFilter)

namespace Filter

def base : Filter → FilterBase
  | .builtin _ base _ => base
  | .record filter => filter.base
  | .custom filter => filter.base

def name (filter : Filter) : String := filter.base.name

def options (filter : Filter) : Options := filter.base.options

def typeName : Filter → String
  | .builtin b _ _ => b.name
  | .record filter => filter.typeName
  | .custom filter => filter.typeName

/-- Neither optional nor with a default, which may be null. -/
def isRequired (filter : Filter) : Bool :=
  filter.options.default.isNone && !filter.options.optional

def accepts : Filter → Value → Bool
  | .builtin b _ _, value => b.accepts value
  | .record filter, value => filter.accepts value
  | .custom filter, value => filter.accepts value

def castBuiltin (b : Builtin) (base : FilterBase) (value : Value) :
    Traced ArgumentError Value :=
  match b.cast? value with
  | some canonical => pure canonical
  | none => .fail (.argumentType base.name b.name)

def cast : Filter → Value → Traced ArgumentError Value
  | .builtin b base _, value => castBuiltin b base value
  | .record filter, value => filter.cast value
  | .custom filter, value => filter.cast value

def processItems (process : Value → Traced ArgumentError Value) :
    List Value → Traced ArgumentError (List Value)
  | [] => pure []
  | item :: rest => do
    let item ← process item
    let rest ← processItems process rest
    pure (item :: rest)

def processEntries (process : Value → Traced ArgumentError Value) :
    List (String × Value) → Traced ArgumentError (List (String × Value))
  | [] => pure []
  | (key, item) :: rest => do
    let item ← process item
    let rest ← processEntries process rest
    pure ((key, item) :: rest)

def processBuiltin (b : Builtin) (base : FilterBase) (value : Value) :
    Traced ArgumentError Value :=
  if value.isNull || b.accepts value then pure value else castBuiltin b base value

def process : Filter → Value → Traced ArgumentError Value
  | .builtin .array base (some item), value =>
    match value with
    | .array items => Value.array <$> processItems item.process items
    | value => processBuiltin .array base value
  | .builtin .hash base (some item), value =>
    match value with
    | .map entries => Value.map <$> processEntries item.process entries
    | value => processBuiltin .hash base value
  | .builtin b base _, value => processBuiltin b base value
  | .record filter, value => filter.process value
  | .custom filter, value => filter.process value

end Filter

end ArgCheck
