import Beans.Property.Comparison
import Beans.Property.Map
import Beans.Value.Scalar

/-!
# Record types

Bean types with a fixed set of properties. A record type says for every property which values it
takes, where its value comes from, and which rule its values obey; and for all of them together
how a bean is built.

## Main definitions

* `Source` — where the value of a property comes from.
* `Rule` — a rule for values.
* `RecordProperty` — a property.
* `Building` — how beans are built.
* `RecordType` — a record type.

## Implementation notes

A child lists the properties of its parent before its own; every property knows who declares it.
Computed values are functions of scalars, so that record types need not know values that hold beans.
-/

set_option autoImplicit false

namespace Beans

/-- Where the value of a property comes from. -/
inductive Source
  /-- From the field of the bean with the property's name. -/
  | stored
  /-- From the scalars in some fields. -/
  | computed (inputs : List String) (value : List Scalar → Scalar)
  /-- From nowhere: it cannot be read. -/
  | absent

/-- A rule for the values of a property. -/
inductive Rule
  /-- An optional value is there. -/
  | notNull
  /-- A text or a collection is not empty. -/
  | notEmpty
  /-- A text has a character that is not blank. -/
  | notBlank
  /-- A number is not below zero. -/
  | notNegative
deriving DecidableEq, Repr

/-- What is said of a value that breaks the rule. -/
def Rule.message : Rule → String
  | notNull => "must not be null"
  | notEmpty => "must not be empty"
  | notBlank => "must not be blank"
  | notNegative => "must not be negative"

/-- A property of a record type. -/
structure RecordProperty where
  /-- The description. -/
  description : MetaProperty
  /-- The type of the values. -/
  type : ValueType
  /-- Where the value comes from. -/
  source : Source
  /-- The rule that values obey. -/
  rule : Option Rule
  /-- Whether texts lose the blanks at their ends when they are stored. -/
  trimmed : Bool
  /-- Whether a collection in the field is emptied and then takes the new items. -/
  refilled : Bool
  /-- How the property takes part in the type's own equality and hash. -/
  equality : PartStyle
  /-- How the property takes part in the type's own text. -/
  text : PartStyle
  /-- Whether another type than that of the field is shown. -/
  shown : Bool := false

/-- The name. -/
def RecordProperty.name (p : RecordProperty) : String := p.description.name

/-- Whether the value is kept in a field. -/
def RecordProperty.isStored (p : RecordProperty) : Bool :=
  match p.source with
  | .stored => true
  | .computed .. | .absent => false

/-- A step of a constructor that is fed with arguments. -/
inductive ConstructorStep
  /-- The argument of a property, or what its type makes of nothing. -/
  | take (property : String)
  /-- The argument of a property, or the default of its type. -/
  | takeOrDefault (property : String)
  /-- The rule of a property is applied to its value. -/
  | check (property : String)
deriving DecidableEq, Repr

/-- How the beans of a type are built. -/
inductive Building
  /-- Not at all. -/
  | impossible
  /-- From the default bean, by storing values. -/
  | editing
  /-- From values that are converted as they come, and checked at the end. -/
  | collecting
  /-- From values that are kept as they come, by the steps of a constructor. -/
  | buffering (steps : List ConstructorStep)

/-- A record type. -/
structure RecordType where
  /-- The bean type. -/
  type : BeanType
  /-- The tags. -/
  tags : List Tag
  /-- The properties, inherited ones first. -/
  properties : List RecordProperty
  /-- The aliases, each with the name of its property. -/
  aliases : List (String × String)
  /-- How beans are built. -/
  building : Building
  /-- Whether the type has an equality, a hash and a text of its own. -/
  hasTraits : Bool
  /-- Whether its beans keep their hash codes. -/
  cachesHash : Bool := false

namespace RecordType

/-- The property map. -/
def table (t : RecordType) : PropertyMap := ⟨t.properties.map RecordProperty.description, t.aliases⟩

/-- The property of a name. -/
def property? (t : RecordType) (name : String) : Option RecordProperty :=
  t.properties.find? fun p => p.name == name

/-- The properties whose values are kept in fields. -/
def stored (t : RecordType) : List RecordProperty := t.properties.filter RecordProperty.isStored

/-- The comparisons by which beans of the type are equal. -/
def comparisons (t : RecordType) : List Comparison :=
  t.stored.filterMap fun p => p.equality.comparison? p.shown p.name

/-- What is fed to a hasher for a bean of the type. -/
def feedings (t : RecordType) : List Feeding :=
  t.stored.filterMap fun p => p.equality.feeding? p.shown p.name

/-- Whether two types are the same. -/
def same (a b : RecordType) : Bool := a.type.same b.type

end RecordType

end Beans
