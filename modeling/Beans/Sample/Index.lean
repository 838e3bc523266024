import Beans.Document.Types
import Beans.Sample.Changeable
import Beans.Sample.Tables
import Beans.Value.Basic

/-!
# The sample types by name

## Main definitions

* `recordTypes` — the record types with the names that stand for them.
* `kind?` — the kind of beans that a name stands for.
* `catalog` — a catalog that knows the sample types.
* `valueType?` — the type of values with a text.
-/

set_option autoImplicit false

namespace Beans.Sample

/-- The record types with the names that stand for them. -/
def recordTypes : List (String × RecordType) :=
  [("Person", person), ("Address", address), ("Animal", animal), ("Dog", dog),
    ("Employee", employee), ("Point", point), ("Counter", counter), ("Name", name),
    ("Pair<String>", pairOfTexts), ("Pair<u32>", pairOfNumbers), ("Tag", tag), ("Key", key),
    ("Styles", styles), ("All", all), ("Holder", holder), ("Vault", vault), ("Odd", odd),
    ("Bag", bag)]

/-- The record type that a name stands for. -/
def recordType? (name : String) : Option RecordType := recordTypes.lookup name

/-- The kind of beans that a name stands for. -/
def kind? (name : String) : Option BeanKind :=
  if name = "flexi" then some (.flexible [])
  else if name = "mapbean" then some .sorted
  else (recordType? name).map .record

/-- A catalog that knows the types of all kinds of beans. -/
def catalog : Catalog :=
  let infos : List TypeInfo := recordTypes.map fun entry => entry.2.type.info
  (infos ++ [flexibleType.info, sortedType.info]).foldl (fun c t => (c.intern t).2) .empty

/-- A catalog that knows the record types by the names that stand for them. -/
def shortNames : Catalog :=
  (recordTypes.map fun entry =>
    let info := entry.2.type.info
    TypeInfo.generic info.simpleName (info.params.map TypeVariable.name)).foldl
      (fun c t => (c.intern t).2) .empty

/-- The type of values with a text, in which record types have short names. -/
def valueType? (text : String) : Option ValueType :=
  (ResolvedType.parse shortNames text).toOption.bind <|
    ValueType.ofResolved? fun name => (recordType? name).map RecordType.type

end Beans.Sample
