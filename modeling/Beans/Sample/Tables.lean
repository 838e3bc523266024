import Beans.Record.Declare
import Beans.Text.UpperCase

/-!
# Sample types described by tables

Record types with properties that the common choices do not make: one that is written but not read,
one that cannot be read at all, computed ones that are not called derived, and a type without
properties.
-/

set_option autoImplicit false

namespace Beans.Sample

open RecordProperty

/-- A type whose name is not that of its module. -/
def tableType (name : String) : BeanType :=
  ⟨"oracle::beans::" ++ name, .ofRaw (.ofName ("oracle::" ++ name))⟩

/-- A type without an equality, a hash and a text of its own. -/
def tableRecord (type : BeanType) (building : Building) (properties : List RecordProperty)
    (aliases : List (String × String)) : RecordType :=
  { RecordType.root type building properties aliases with hasTraits := false }

/-- The type of vaults. -/
def vaultType : BeanType := tableType "Vault"

/-- Vaults that the right number opens. -/
def vault : RecordType :=
  (tableRecord vaultType .impossible
    [stored vaultType .writeOnly "pin" (.int .i64),
      { stored vaultType .readOnly "ghost" .text with source := .absent },
      (computed vaultType .readOnly "open" .bool ["pin"] fun inputs =>
        .bool (inputs == [.int 42])).withTags [⟨"computed", [("from", "pin")]⟩]]
    [("code", "pin")]).withTags [⟨"secure", []⟩, ⟨"secure", [("level", "2")]⟩]

/-- The type of towns. -/
def oddType : BeanType := tableType "Odd"

/-- The text of the first input. -/
def firstText : List Scalar → String
  | .text s :: _ => s
  | _ => ""

/-- Towns, with their names' length and upper case. -/
def odd : RecordType :=
  let property := stored oddType .readOnlyBuildable
  tableRecord oddType
    (.buffering [.take "city", .check "city", .take "zip", .takeOrDefault "count"])
    [(property "city" .text).withRule .notEmpty,
      property "zip" (.option .text),
      property "count" (.int .u8),
      computed oddType .readOnly "length" (.int .u64) ["city"] fun inputs =>
        .uint (.ofNat (firstText inputs).utf8ByteSize),
      computed oddType .derived "shout" .text ["city"] fun inputs =>
        .text (Text.upperCase (firstText inputs))]
    [("town", "city"), ("len", "length")]

/-- The type of bags. -/
def bagType : BeanType := tableType "Bag"

/-- Bags have no properties. -/
def bag : RecordType := tableRecord bagType .impossible [] []

end Beans.Sample
