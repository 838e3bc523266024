import Beans.Record.Declare
import Beans.Sample.Fixed

/-!
# Sample types that can be changed

Record types whose beans are built from a default and changed in place.
-/

set_option autoImplicit false

namespace Beans.Sample

open RecordProperty

/-- The type of persons. -/
def personType : BeanType := declared "Person"

/-- Persons. -/
def person : RecordType :=
  let property := stored personType .readWrite
  (RecordType.root personType .editing
    [(property "name" .text).withRule .notBlank |>.withTags
        [⟨"label", [("text", "Name")]⟩, ⟨"indexed", []⟩],
      property "age" (.int .u32),
      property "tags" (.sequence .vec .text),
      property "address" (.option (.bean addressType)),
      (property "nick" (.option .text)).withRule .notNull]
    [("years", "age")]).withTags
      [⟨"persisted", [("table", "people"), ("version", "2")]⟩, ⟨"audited", []⟩]

/-- The type of employees. -/
def employeeType : BeanType := extending "Employee" personType

/-- Persons with a salary. -/
def employee : RecordType :=
  person.child employeeType .editing [stored employeeType .readWrite "salary" (.int .i64)] []

/-- The type of counters. -/
def counterType : BeanType := declared "Counter"

/-- Counters. -/
def counter : RecordType :=
  let property := stored counterType .readWrite
  .root counterType .editing [property "label" .text, property "count" (.int .u64)] [("n", "count")]

/-- The type of names. -/
def nameType : BeanType := declared "Name"

/-- The text of a scalar; others count as empty. -/
def scalarText : Scalar → String
  | .text s => s
  | _ => ""

/-- Texts with a blank between them. -/
def spaced (parts : List Scalar) : String := Text.joinWith " " (parts.map scalarText)

/-- Names in two parts, with the whole and its length. -/
def name : RecordType :=
  let property := stored nameType .readWrite
  .root nameType .editing
    [property "first" .text, property "last" .text,
      computed nameType .derived "full_name" .text ["first", "last"] fun parts =>
        .text (spaced parts),
      computed nameType .derived "size" (.int .u64) ["first", "last"] fun parts =>
        .uint (.ofNat (spaced parts).length)]
    []

/-- The type of pairs over a type with the given full name. -/
def pairType (argument : String) (item : ValueType) : BeanType :=
  let path := modulePath ++ "Pair"
  ⟨path ++ "<" ++ argument ++ ">", .mk (.generic path ["T"]) [item.resolved]⟩

/-- A first item and more of its type. -/
def pair (argument : String) (item : ValueType) : RecordType :=
  let type := pairType argument item
  let param : GenericType := .param (.of type.name "T" [])
  .root type .editing
    [(stored type .readWrite "first" item).withGeneric param,
      (stored type .readWrite "rest" (.sequence .vec item)).withGeneric
        (.applied (builtin "Vec") [param])]
    []

/-- Pairs of numbers. -/
def pairOfNumbers : RecordType := pair "u32" (.int .u32)

/-- Pairs of texts. -/
def pairOfTexts : RecordType := pair "alloc::string::String" .text

/-- The type of tags. -/
def tagType : BeanType := declared "Tag"

/-- Tags with a note that equality and text leave out. -/
def tag : RecordType :=
  let property := stored tagType .readWrite
  .root tagType .editing
    [property "key" .text,
      (property "note" .text).withParts .omit .omit,
      (property "value" .text).withParts .field .field,
      property "weight" .double]
    []

/-- The type of beans with all ways of access. -/
def stylesType : BeanType := declared "Styles"

/-- Beans with all ways of access. -/
def styles : RecordType :=
  let property := stored stylesType .readWrite
  .root stylesType .editing
    [stored stylesType .writeOnly "secret" .text,
      stored stylesType .readOnly "fixed" (.int .i32),
      (property "direct" .text).withRule .notEmpty,
      { property "trimmed" .text with trimmed := true },
      (property "manual" (.int .i32)).withRule .notNegative,
      { property "wide" (.int .i64) with shown := true },
      { property "items" (.sequence .vec (.int .i32)) with refilled := false },
      property "queue" (.sequence .deque (.int .i32))]
    []

/-- The type of beans with values of all types. -/
def allType : BeanType := declared "All"

/-- Beans with values of all types. -/
def all : RecordType :=
  let property := stored allType .readWrite
  .root allType .editing
    [property "i8_" (.int .i8), property "i16_" (.int .i16), property "i64_" (.int .i64),
      property "u8_" (.int .u8), property "u16_" (.int .u16), property "u64_" (.int .u64),
      property "f32_" .single, property "f64_" .double, property "flag" .bool,
      property "letter" .char, property "boxed" (.wrapper .box .text),
      property "shared" (.wrapper .arc .text), property "queue" (.sequence .deque (.int .i32)),
      property "set" (.set .ordered (.int .i32)),
      property "table" (.map .ordered .text (.int .i64)),
      property "maybe" (.option (.sequence .vec (.int .i32))), property "grid" (.grid (.int .i32))]
    []

end Beans.Sample
