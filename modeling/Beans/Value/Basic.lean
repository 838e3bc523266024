import Beans.Record.Type
import Beans.Value.Grid

/-!
# Values

Dynamic values: scalars, collections, optional values, beans, and objects whose content is not
shown.

## Main definitions

* `Identity` — what tells objects apart that are compared by identity.
* `BeanKind`, `BeanOf` — what a bean is, and its fields.
* `Value` — a value; `Bean` — a bean whose fields hold values.
* `Slot`, `BeanKind.slots` — what a bean shows under each of its properties.

## Implementation notes

Functions on values go through the lists inside them by functions of their own, so that all of
them are structural. For that reason `BeanKind.slots` is generic: given the images of the fields
under any such function, it arranges them as the properties of the bean.
-/

set_option autoImplicit false

namespace Beans

/-- What tells objects apart. -/
inductive Identity
  /-- The object of a label, or the copy of a copy of it. -/
  | named (label : String) (copies : Nat)
  /-- An object that was made to show a value; nothing else is the same object. -/
  | made
deriving DecidableEq, Repr

namespace Identity

/-- The order of objects: those made to show a value first, then by label, then by copies. -/
def compare : Identity → Identity → Ordering
  | made, made => .eq
  | made, named _ _ => .lt
  | named _ _, made => .gt
  | named l m, named l' m' => (Ord.compare l l').then (Ord.compare m m')

/-- Whether two objects are the same. -/
def isSame (a b : Identity) : Bool := decide (a = b ∧ a ≠ made)

/-- The identity of a copy. -/
def copy : Identity → Identity
  | named label copies => named label (copies + 1)
  | made => made

/-- The bytes that stand for an object. -/
def feed : Identity → Digest.Feed
  | made => Digest.ofTag 0
  | named label copies => Digest.ofTag 1 ++ Digest.ofText label ++ Digest.ofNat copies

end Identity

/-- An object whose content is not shown. -/
structure Thing where
  /-- The name of its type. -/
  type : String
  /-- What it carries. -/
  content : Int
deriving DecidableEq, Repr

/-- What a bean is. -/
inductive BeanKind
  /-- A bean of a record type. -/
  | record (type : RecordType)
  /-- A bean with any properties, in the order in which they came; some have a declared type. -/
  | flexible (types : List (String × ResolvedType))
  /-- A bean with any properties, in the order of their names. -/
  | sorted

/-- A bean over any kind of values. -/
structure BeanOf (α : Type) where
  /-- What it is. -/
  kind : BeanKind
  /-- The values by name. -/
  fields : List (String × α)

/-- A dynamic value. -/
inductive Value
  | scalar (s : Scalar)
  | list (items : List Value)
  | set (items : List Value)
  | map (entries : List (Value × Value))
  | optional (item : Option Value)
  | bean (b : BeanOf Value)
  /-- An object whose content is not shown. -/
  | thing (identity : Identity) (t : Thing)
  /-- A grid as an object. -/
  | grid (identity : Identity) (g : Grid Value)

/-- A bean. -/
abbrev Bean := BeanOf Value

namespace Value

/-- Nothing. -/
def null : Value := scalar .null

/-- A truth value. -/
def bool (b : Bool) : Value := scalar (.bool b)

/-- A character. -/
def char (c : Char) : Value := scalar (.char c)

/-- A signed number. -/
def int (i : Int64) : Value := scalar (.int i)

/-- An unsigned number. -/
def uint (u : UInt64) : Value := scalar (.uint u)

/-- A floating-point number. -/
def float (x : Number.Binary64) : Value := scalar (.float x)

/-- A text. -/
def text (s : String) : Value := scalar (.text s)

/-- The name of the kind. -/
def kindName : Value → String
  | scalar s => s.kindName
  | list _ => "List"
  | set _ => "Set"
  | map _ => "Map"
  | optional _ => "Optional"
  | bean _ => "Bean"
  | thing _ _ => "Opaque"
  | grid _ _ => "Opaque"

/-- Whether it is nothing. -/
def isNull : Value → Bool
  | scalar .null => true
  | _ => false

/-- The number, if it is an integer in the signed range. -/
def asInt? : Value → Option Int64
  | scalar (.int i) => some i
  | scalar (.uint u) => if u.toNat < Nat.pow 2 63 then some (.ofNat u.toNat) else none
  | _ => none

/-- The text. -/
def asText? : Value → Option String
  | scalar (.text s) => some s
  | _ => none

/-- The bean. -/
def asBean? : Value → Option Bean
  | bean b => some b
  | _ => none

/-- The scalar. -/
def asScalar? : Value → Option Scalar
  | scalar s => some s
  | _ => none

/-- What tells the object apart that a value is. -/
def identity? : Value → Option Identity
  | thing i _ => some i
  | grid i _ => some i
  | _ => none

/-- What is inside an optional value, and nothing for an absent one; any other value as it is. -/
def unwrapOptional : Value → Value
  | optional (some v) => v
  | optional none => null
  | v => v

end Value

/-! ### Types of beans -/

/-- The type of beans with any properties in the order in which they came. -/
def flexibleType : BeanType := .ofName "metabean_core::dynamic::flexi::FlexiBean"

/-- The type of beans with any properties in the order of their names. -/
def sortedType : BeanType := .ofName "metabean_core::dynamic::map::MapBean"

namespace BeanKind

/-- The bean type. -/
def type : BeanKind → BeanType
  | record t => t.type
  | flexible _ => flexibleType
  | sorted => sortedType

/-- Whether any property can be added. -/
def isDynamic : BeanKind → Bool
  | record _ => false
  | flexible _ | sorted => true

end BeanKind

/-- The type of a bean. -/
def BeanOf.type {α : Type} (b : BeanOf α) : BeanType := b.kind.type

/-! ### What beans show -/

/-- What a bean shows under a property. -/
inductive Slot (α : Type)
  /-- The property is not meant to be read. -/
  | hidden (name : String)
  /-- The property is meant to be read, but cannot be. -/
  | failed (name : String)
  /-- The value. -/
  | shown (name : String) (value : α)

namespace Slot

variable {α : Type}

/-- The name of the property. -/
def name : Slot α → String
  | hidden n => n
  | failed n => n
  | shown n _ => n

/-- The name with the value, if there is one. -/
def shown? : Slot α → Option (String × α)
  | hidden _ => none
  | failed _ => none
  | shown n v => some (n, v)

/-- The value, if there is one. -/
def value? : Slot α → Option α
  | hidden _ => none
  | failed _ => none
  | shown _ v => some v

end Slot

/-- The scalar in a field. -/
def fieldScalar (fields : List (String × Value)) (name : String) : Scalar :=
  ((fields.lookup name).bind Value.asScalar?).getD .null

/-- The slot of a property of a record type from the images of the fields; `lift` is the image of a
scalar. -/
def RecordProperty.slot {α : Type} (fields : List (String × Value)) (images : List (String × α))
    (lift : Scalar → α) (p : RecordProperty) : Slot α :=
  if !p.description.style.isReadable then .hidden p.name
  else match p.source with
    | .absent => .failed p.name
    | .computed inputs value => .shown p.name (lift (value (inputs.map (fieldScalar fields))))
    | .stored => match images.lookup p.name with
      | some v => .shown p.name v
      | none => .failed p.name

/-- The slots of a bean from the images of its fields. -/
def BeanKind.slots {α : Type} (kind : BeanKind) (fields : List (String × Value))
    (images : List (String × α)) (lift : Scalar → α) : List (Slot α) :=
  match kind with
  | .record t => t.properties.map (RecordProperty.slot fields images lift)
  | .flexible _ => images.map fun (n, v) => .shown n v
  | .sorted => images.map fun (n, v) => .shown n v

/-- The slots of a bean. -/
def Bean.slots (b : Bean) : List (Slot Value) := b.kind.slots b.fields b.fields .scalar

/-- The readable properties with their values, in order. -/
def Bean.flatten (b : Bean) : List (String × Value) := b.slots.filterMap Slot.shown?

end Beans
