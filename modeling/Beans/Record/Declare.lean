import Beans.Record.Type

/-!
# Declaring record types

Record types from their properties, and children from their parents.

## Main definitions

* `RecordProperty.stored`, `RecordProperty.computed` — properties with the common choices made.
* `RecordType.root`, `RecordType.child` — types without and with a parent.
-/

set_option autoImplicit false

namespace Beans

namespace RecordProperty

/-- A property whose values are stored; it can be written if its style says so. Collections are
refilled. -/
def stored (owner : BeanType) (style : PropertyStyle) (name : String) (type : ValueType) :
    RecordProperty where
  description :=
    { name, declaring := owner, holder := owner, generic := type.generic, style
      settable := style.isWritable, tags := [] }
  type := type
  source := .stored
  rule := none
  trimmed := false
  refilled := type.isCollection
  equality := .smart
  text := .smart

/-- A property whose value is computed. -/
def computed (owner : BeanType) (style : PropertyStyle) (name : String) (type : ValueType)
    (inputs : List String) (value : List Scalar → Scalar) : RecordProperty :=
  { stored owner style name type with source := .computed inputs value }

/-- With a rule. -/
def withRule (rule : Rule) (p : RecordProperty) : RecordProperty := { p with rule := some rule }

/-- With tags. -/
def withTags (tags : List Tag) (p : RecordProperty) : RecordProperty :=
  { p with description := { p.description with tags } }

/-- With another declared type. -/
def withGeneric (generic : GenericType) (p : RecordProperty) : RecordProperty :=
  { p with description := { p.description with generic } }

/-- With the ways to take part in the type's own equality and text. -/
def withParts (equality text : PartStyle) (p : RecordProperty) : RecordProperty :=
  { p with equality, text }

/-- As a property of a child. -/
def inheritedBy (child : BeanType) (p : RecordProperty) : RecordProperty :=
  { p with description := p.description.inheritedBy child }

end RecordProperty

namespace RecordType

/-- A type without a parent. -/
def root (type : BeanType) (building : Building) (properties : List RecordProperty)
    (aliases : List (String × String)) : RecordType :=
  { type, tags := [], properties, aliases, building, hasTraits := true }

/-- A type with the properties of a parent, its aliases in their order as texts, and some of its
own. -/
def child (parent : RecordType) (type : BeanType) (building : Building)
    (properties : List RecordProperty) (aliases : List (String × String)) : RecordType :=
  { type, tags := [], building, hasTraits := true
    properties := parent.properties.map (RecordProperty.inheritedBy type) ++ properties
    aliases := Order.sortBy (fun a b => decide (a.1 ≤ b.1)) parent.aliases ++ aliases }

/-- With tags. -/
def withTags (tags : List Tag) (t : RecordType) : RecordType := { t with tags }

end RecordType

end Beans
