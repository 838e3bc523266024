import Beans.Property.Style
import Beans.Property.Tag
import Beans.Value.Type

/-!
# Meta-properties

The description of a property: its name and type, who declares it, and to which beans it applies.
-/

set_option autoImplicit false

namespace Beans

/-- The description of a property. -/
structure MetaProperty where
  /-- The name. -/
  name : String
  /-- The bean type that declares the property. -/
  declaring : BeanType
  /-- The bean type whose beans have the property; a child of `declaring` if it is inherited. -/
  holder : BeanType
  /-- The type as it is declared. -/
  generic : GenericType
  /-- What can be done with the property. -/
  style : PropertyStyle
  /-- Whether a value can be stored. -/
  settable : Bool
  /-- The tags. -/
  tags : List Tag

namespace MetaProperty

/-- The declared type without arguments. -/
def raw (p : MetaProperty) : TypeInfo := p.generic.erasure

/-- Whether two descriptions mean the same property: the name and the declarer are the same. -/
def same (a b : MetaProperty) : Bool := a.name == b.name && a.declaring.same b.declaring

/-- Whether the property comes from a parent. -/
def isInherited (p : MetaProperty) : Bool := !p.declaring.same p.holder

/-- The text for developers. -/
def debug (p : MetaProperty) : String := p.declaring.simpleName ++ ":" ++ p.name

/-- The property as one of a child. -/
def inheritedBy (child : BeanType) (p : MetaProperty) : MetaProperty := { p with holder := child }

end MetaProperty

end Beans
