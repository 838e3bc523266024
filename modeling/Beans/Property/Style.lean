/-!
# Styles of properties

What can be done with a property: whether it can be read, written, or supplied to a builder, and
whether it is computed.

## Main definitions

* `PropertyStyle` — the six styles and the questions about them.
* `Access` — the three ways of access that a bean can have to a stored value.
* `PartStyle` — how a property takes part in what is done with the whole bean.
-/

set_option autoImplicit false

namespace Beans

/-- The style of a property. -/
inductive PropertyStyle
  | readOnly
  | readWrite
  | writeOnly
  /-- Computed from other properties. -/
  | derived
  /-- Read from the bean and supplied to its builder. -/
  | readOnlyBuildable
  /-- A property of an immutable bean. -/
  | immutable
deriving DecidableEq, Repr

/-- Whether a value can be read. -/
def PropertyStyle.isReadable : PropertyStyle → Bool
  | .writeOnly => false
  | .readOnly | .readWrite | .derived | .readOnlyBuildable | .immutable => true

/-- Whether a value can be written. -/
def PropertyStyle.isWritable : PropertyStyle → Bool
  | .readWrite | .writeOnly => true
  | .readOnly | .derived | .readOnlyBuildable | .immutable => false

/-- Whether a builder takes a value. -/
def PropertyStyle.isBuildable : PropertyStyle → Bool
  | .readWrite | .writeOnly | .readOnlyBuildable | .immutable => true
  | .readOnly | .derived => false

/-- Whether the value is computed. -/
def PropertyStyle.isDerived : PropertyStyle → Bool
  | .derived => true
  | .readOnly | .readWrite | .writeOnly | .readOnlyBuildable | .immutable => false

/-- Whether a value can be written out and read back. -/
def PropertyStyle.isSerializable (s : PropertyStyle) : Bool := s.isReadable && s.isBuildable

/-- The name of a style. -/
def PropertyStyle.name : PropertyStyle → String
  | .readOnly => "ReadOnly"
  | .readWrite => "ReadWrite"
  | .writeOnly => "WriteOnly"
  | .derived => "Derived"
  | .readOnlyBuildable => "ReadOnlyBuildable"
  | .immutable => "Immutable"

/-- The style of a name. -/
def PropertyStyle.ofName? (name : String) : Option PropertyStyle :=
  [readOnly, readWrite, writeOnly, derived, readOnlyBuildable, immutable].find? fun s =>
    s.name == name

/-- The ways of access to a stored value. -/
inductive Access
  | readOnly
  | readWrite
  | writeOnly
deriving DecidableEq, Repr

/-- The way of access, unless there is none. -/
def Access.of? : (readable writable : Bool) → Option Access
  | true, true => some .readWrite
  | true, false => some .readOnly
  | false, true => some .writeOnly
  | false, false => none

/-- Whether a value can be read. -/
def Access.isReadable : Access → Bool
  | .writeOnly => false
  | .readOnly | .readWrite => true

/-- Whether a value can be written. -/
def Access.isWritable : Access → Bool
  | .readOnly => false
  | .readWrite | .writeOnly => true

/-- The style of a property with this access. -/
def Access.style : Access → PropertyStyle
  | .readOnly => .readOnly
  | .readWrite => .readWrite
  | .writeOnly => .writeOnly

/-- How a property takes part in equality, hashing or the text form. -/
inductive PartStyle
  /-- By the rules of its type. -/
  | smart
  | omit
  /-- By the field's own implementations. -/
  | field
deriving DecidableEq, Repr, Inhabited

/-- The name of a choice. -/
def PartStyle.name : PartStyle → String
  | .smart => "Smart"
  | .omit => "Omit"
  | .field => "Field"

end Beans
