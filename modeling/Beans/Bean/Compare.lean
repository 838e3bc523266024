import Beans.Bean.Access

/-!
# Comparing beans

## Main definitions

* `Bean.propertiesSame` — whether two beans of any types have the same properties with equal values.
* `Bean.propertiesDigest` — the digest of the properties of a bean, in whatever order they are.
* `Bean.sameIgnoring` — equality but for some properties.
* `MetaProperty.compareBeansBy`, `MetaProperty.compareBeans` — the order of beans by a property.
* `MetaProperty.chain` — a property of the bean that a property holds.
-/

set_option autoImplicit false

namespace Beans

/-- Whether two beans hold equal values under a property of each, or neither property is meant to be
read. -/
def sameUnder (p q : MetaProperty) (a b : Bean) : Bool :=
  p.style.isReadable == q.style.isReadable && (!p.style.isReadable ||
    match p.get a, q.get b with
    | .ok x, .ok y => x.same y
    | _, _ => false)

/-- Whether two beans have the same properties with equal values, and the same properties that are
not meant to be read. Their types and aliases play no part. -/
def Bean.propertiesSame (a b : Bean) : Bool :=
  a.table.size == b.table.size && a.table.properties.all fun p =>
    (b.table.find? p.name).any fun q => q.name == p.name && sameUnder p q a b

/-- The bytes that stand for a property of a bean. -/
def Bean.propertyFeed (b : Bean) (p : MetaProperty) : Digest.Feed :=
  Digest.ofText p.name ++ Digest.ofBool p.style.isReadable ++
    if p.style.isReadable then
      match p.get b with
      | .ok v => v.feed
      | .error _ => []
    else []

/-- The digest of the properties of a bean, in whatever order they are. -/
def Bean.propertiesDigest (b : Bean) : UInt64 :=
  7 + Digest.unordered (b.table.properties.map b.propertyFeed)

/-- Whether two beans have equal values for a property, unless it is not meant to be read. -/
def readableSame (p : MetaProperty) (a b : Bean) : Bool :=
  !p.style.isReadable || match p.get a, p.get b with
    | .ok x, .ok y => x.same y
    | _, _ => false

/-- Whether two beans are of one type and equal but for some properties. -/
def Bean.sameIgnoring (a b : Bean) (ignored : List MetaProperty) : Bool :=
  a.type.same b.type && match ignored with
    | [] => a.propertiesSame b
    | _ :: _ => (a.table.properties.filter fun p => !ignored.any p.same).all fun p =>
      readableSame p a b

/-- The order of beans by a property, for an order of objects; beans that do not have the property
come first. -/
def MetaProperty.compareBeansBy (objects : Identity → Identity → Ordering) (p : MetaProperty)
    (ascending : Bool) (a b : Bean) : Ordering :=
  let order := match p.get a, p.get b with
    | .ok x, .ok y => x.compareBy objects y
    | .error _, .ok _ => .lt
    | .ok _, .error _ => .gt
    | .error _, .error _ => .eq
  if ascending then order else order.swap

/-- The order of beans by a property in use. -/
def MetaProperty.compareBeans (p : MetaProperty) (ascending : Bool) (a b : Bean) : Ordering :=
  p.compareBeansBy Identity.compare ascending a b

/-- Beans in the order of a property. -/
def MetaProperty.sortBeans (p : MetaProperty) (ascending : Bool) (beans : List Bean) : List Bean :=
  Order.sortBy (fun a b => p.compareBeans ascending a b != .gt) beans

/-- The second property of the bean that the first one holds. -/
def MetaProperty.chain (first second : MetaProperty) (b : Bean) : Except BeanError Value := do
  let inner := (← first.get b).unwrapOptional
  match inner.asBean? with
  | some nested => second.get nested
  | none => throw (mismatch "bean" inner)

end Beans
