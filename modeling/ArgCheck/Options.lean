import ArgCheck.DeclaredType

set_option autoImplicit false

/-!
# Declared options

What a declaration says about one argument, or about the items of a container: its type, whether it
may be left out, its default, and the options of the items below it.
-/

namespace ArgCheck

structure Options where
  declared : DeclaredType
  optional : Bool := false
  default : Option Value := none
  description : Option String := none
  /-- The items of an array. -/
  element : Option Options := none
  /-- The values of a map. -/
  value : Option Options := none
  /-- The class of a record. -/
  cls : Option ClassRef := none

namespace Options

def ofType (declared : DeclaredType) : Options := { declared }

def isBare (options : Options) : Bool :=
  !options.optional && options.default.isNone && options.description.isNone &&
    options.element.isNone && options.value.isNone && options.cls.isNone

end Options

end ArgCheck
