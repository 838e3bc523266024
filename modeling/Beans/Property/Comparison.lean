import Beans.Digest.Sip
import Beans.Property.Style

/-!
# Fields in equality and hashing

A property that takes part in the equality and the hash of its bean does so by the rules of its
property type or by those of the type of its field. Equality and hash each have a table of their own
for that.

## Main definitions

* `Comparison`, `PartStyle.comparison?` — how a field is compared.
* `Feeding`, `PartStyle.feeding?` — how a field is fed to a hasher.
* `FieldRule` — what there is to compare and feed fields with.
* `Comparison.holds`, `Feeding.bytes` — comparing and feeding by such rules.
* `hashWith` — a hash that may be kept.
-/

set_option autoImplicit false

namespace Beans

open Digest

/-! ### Tables -/

/-- A comparison of a field of two beans. -/
inductive Comparison
  /-- By the equality of the type of the field. -/
  | own (field : String)
  /-- By the equality of the property type. -/
  | byType (field : String)
deriving DecidableEq, Repr

/-- The comparison of a property, unless it is left out. `shown` tells whether another type than that
of the field is shown. -/
def PartStyle.comparison? (style : PartStyle) (shown : Bool) (field : String) : Option Comparison :=
  match style, shown with
  | .omit, _ => none
  | .field, _ | .smart, true => some (.own field)
  | .smart, false => some (.byType field)

/-- A field that is fed to a hasher. -/
inductive Feeding
  /-- By the hash of the type of the field. -/
  | own (field : String)
  /-- By the hash of the property type. -/
  | byType (field : String)
deriving DecidableEq, Repr

/-- How a property is fed to a hasher, unless it is left out. -/
def PartStyle.feeding? (style : PartStyle) (shown : Bool) (field : String) : Option Feeding :=
  match style, shown with
  | .omit, _ => none
  | .field, _ | .smart, true => some (.own field)
  | .smart, false => some (.byType field)

/-! ### Fields with values -/

/-- Equality and hash of fields: of the types that they have, and of their property types. -/
structure FieldRule (α : Type) where
  /-- Equality by the type of the field. -/
  same : α → α → Bool
  /-- The bytes that the type of the field feeds to a hasher. -/
  feed : α → Feed
  /-- Equality by the property type. -/
  sameByType : α → α → Bool
  /-- The bytes that the property type feeds to a hasher. -/
  feedByType : α → Feed

/-- Whether two beans agree in the field that is compared. -/
def Comparison.holds {α : Type} (rule : FieldRule α) (a b : String → α) : Comparison → Bool
  | own field => rule.same (a field) (b field)
  | byType field => rule.sameByType (a field) (b field)

/-- The bytes that are fed to a hasher for a field. -/
def Feeding.bytes {α : Type} (rule : FieldRule α) (a : String → α) : Feeding → Feed
  | own field => rule.feed (a field)
  | byType field => rule.feedByType (a field)

/-- The bytes for a hasher and the hash code that is kept afterwards. If codes are kept then the code
of the bytes `fed` is made when it is first asked for, and the hasher gets the code that is kept. -/
def hashWith (caches : Bool) (fed : Feed) (kept : Option UInt64) : Feed × Option UInt64 :=
  if caches then
    let code := kept.getD (digest fed)
    (ofWord code, some code)
  else (fed, kept)

end Beans
