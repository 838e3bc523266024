/-!
# Errors of beans

What can go wrong when a bean is read, written, built or described.
-/

set_option autoImplicit false

namespace Beans

/-- The causes of failure. -/
inductive BeanError
  /-- No property has the name. -/
  | noSuchProperty (bean property : String)
  /-- No meta-bean is known for the type. -/
  | unknownBeanType (type : String)
  /-- What may be registered once is registered already. -/
  | duplicateRegistration (subject : String)
  /-- Two properties, or a property and an alias, have one name. -/
  | duplicateProperty (bean property : String)
  /-- A value breaks a rule of its property. -/
  | validation (property message : String)
  /-- A value has another type. -/
  | typeMismatch (expected found : String)
  /-- A meta-property is applied to a bean of another type. -/
  | wrongBeanType (property expected found : String)
  /-- The property cannot be written. -/
  | readOnly (property : String)
  /-- The property cannot be read. -/
  | writeOnly (property : String)
  /-- The type has no builder. -/
  | notBuildable (bean : String)
  /-- The text is not a path of properties. -/
  | invalidPath (path message : String)
  /-- The text is not a type. -/
  | invalidType (input message : String)
  /-- A type has the wrong number of arguments. -/
  | arityMismatch (raw : String) (expected found : Nat)
  /-- A bean cannot be made. -/
  | instantiation (bean message : String)
deriving DecidableEq, Repr

namespace BeanError

/-- The name of the kind of error. -/
def kind : BeanError → String
  | noSuchProperty .. => "NoSuchProperty"
  | unknownBeanType .. => "UnknownBeanType"
  | duplicateRegistration .. => "DuplicateRegistration"
  | duplicateProperty .. => "DuplicateProperty"
  | validation .. => "Validation"
  | typeMismatch .. => "TypeMismatch"
  | wrongBeanType .. => "WrongBeanType"
  | readOnly .. => "ReadOnly"
  | writeOnly .. => "WriteOnly"
  | notBuildable .. => "NotBuildable"
  | invalidPath .. => "InvalidPath"
  | invalidType .. => "InvalidType"
  | arityMismatch .. => "ArityMismatch"
  | instantiation .. => "Instantiation"

/-- The text for the reader. -/
def message : BeanError → String
  | noSuchProperty bean property => s!"unknown property '{property}' on {bean}"
  | unknownBeanType type => s!"unknown bean type: {type}"
  | duplicateRegistration subject => s!"meta-bean already registered for {subject}"
  | duplicateProperty bean property => s!"duplicate property '{property}' on {bean}"
  | validation property message => s!"invalid value for property '{property}': {message}"
  | typeMismatch expected found => s!"type mismatch: expected {expected}, found {found}"
  | wrongBeanType property expected found =>
    s!"meta-property '{property}' of {expected} cannot be used with {found}"
  | readOnly property => s!"property '{property}' is read-only"
  | writeOnly property => s!"property '{property}' is write-only"
  | notBuildable bean => s!"bean type {bean} is not buildable"
  | invalidPath path message => s!"invalid property path '{path}': {message}"
  | invalidType input message => s!"invalid type '{input}': {message}"
  | arityMismatch raw expected found =>
    s!"type {raw} expects {expected} type arguments, found {found}"
  | instantiation bean message => s!"cannot instantiate {bean}: {message}"

/-- Whether a property is missing. -/
def isNoSuchProperty : BeanError → Bool
  | noSuchProperty .. => true
  | _ => false

/-- Whether a rule of a property is broken. -/
def isValidation : BeanError → Bool
  | validation .. => true
  | _ => false

end BeanError

end Beans
