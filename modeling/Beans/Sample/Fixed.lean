import Beans.Record.Declare

/-!
# Sample types that cannot be changed

Record types whose beans are built at once and stay as they are.
-/

set_option autoImplicit false

namespace Beans.Sample

open RecordProperty

/-- The path before the names of the sample types. -/
def modulePath : String := "oracle::beans::"

/-- A sample type without parameters and parent. -/
def declared (name : String) : BeanType := .ofName (modulePath ++ name)

/-- A sample type with a parent. -/
def extending (name : String) (parent : BeanType) : BeanType :=
  let path := modulePath ++ name
  ⟨path, .ofRaw (.declared path false [] [.plain parent.info])⟩

/-- The type of addresses. -/
def addressType : BeanType := declared "Address"

/-- Addresses. -/
def address : RecordType :=
  let property := stored addressType .immutable
  .root addressType .collecting
    [(property "street" .text).withRule .notBlank,
      property "number" (.int .u32),
      property "lines" (.sequence .vec .text),
      property "zip" (.option .text)]
    [("rows", "lines")]

/-- The type of animals. -/
def animalType : BeanType := declared "Animal"

/-- Animals. -/
def animal : RecordType :=
  .root animalType .collecting [stored animalType .immutable "name" .text] [("label", "name")]

/-- The type of dogs. -/
def dogType : BeanType := extending "Dog" animalType

/-- Animals with a breed. -/
def dog : RecordType :=
  animal.child dogType .collecting
    [(stored dogType .immutable "breed" .text).withRule .notEmpty] []

/-- The type of points. -/
def pointType : BeanType := declared "Point"

/-- Points with a label. -/
def point : RecordType :=
  let property := stored pointType .immutable
  (RecordType.root pointType
    (.buffering [.take "x", .take "y", .takeOrDefault "label", .check "label"])
    [property "x" (.int .i32), property "y" (.int .i32),
      (property "label" .text).withRule .notEmpty]
    []).withTags [⟨"value", []⟩]

/-- The type of keys. -/
def keyType : BeanType := declared "Key"

/-- Keys of several parts, which keep their hash codes. -/
def key : RecordType :=
  let property := stored keyType .immutable
  { RecordType.root keyType .collecting
      [property "id" (.int .u64), property "parts" (.set .ordered .text)] [] with
    cachesHash := true }

/-- The type of holders. -/
def holderType : BeanType := declared "Holder"

/-- Beans that hold values of any type. -/
def holder : RecordType :=
  let property := stored holderType .immutable
  .root holderType .collecting [property "value" .any, property "extra" (.option .any)] []

end Beans.Sample
