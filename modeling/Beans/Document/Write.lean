import Beans.Bean.Builder
import Beans.Document.Basic
import Beans.Number.Hexadecimal

/-!
# Documents of values

Values, types and the descriptions of beans as documents. The document of a value is a record with
one field that names its kind; that of a bean of a record type has its type and what it shows.

## Main definitions

* `Value.document`, `Bean.document` — values and beans.
* `MetaProperty.document`, `ResolvedType.document`, `TypeInfo.document`,
  `MetaBean.described` — descriptions.
-/

set_option autoImplicit false

namespace Beans

open Number

/-! ### Values -/

/-- A scalar: its kind with its value, numbers as text. -/
def Scalar.document : Scalar → Document
  | null => .record [("null", true)]
  | bool b => .record [("bool", b)]
  | char c => .record [("char", String.singleton c)]
  | int i => .record [("int", toString i.toInt)]
  | uint u => .record [("uint", toString u.toNat)]
  | float x => .record [("float", hexText 16 x.bits.toNat)]
  | text s => .record [("str", s)]

/-- A bean from the documents of its fields. -/
def beanDocument (kind : BeanKind) (fields : List (String × Value))
    (documents : List (String × Document)) : Document :=
  match kind with
  | .flexible _ => .record [("flexi", documents)]
  | .sorted => .record [("mapbean", documents)]
  | .record t =>
    .record [("bean", t.type.simpleName),
      ("props", (kind.slots fields documents Scalar.document).filterMap Slot.shown?)]

/-- A grid from the documents of its cells. -/
def gridDocument (rows columns : Nat) (cells : List ((Nat × Nat) × Document)) : Document :=
  .record [("grid", .record [("cells", cells.map fun c => [toDocument c.1.1, c.1.2, c.2]),
    ("columns", columns), ("rows", rows)])]

/-- A thing: its type with what it carries. -/
def Thing.document (t : Thing) : Document := .record [(t.type, t.content)]

mutual

/-- A value. -/
def Value.document : Value → Document
  | .scalar s => s.document
  | .list items => .record [("list", documents items)]
  | .set items => .record [("set", documents items)]
  | .map entries => .record [("map", entryDocuments entries)]
  | .optional none => .record [("none", true)]
  | .optional (some v) => .record [("some", v.document)]
  | .bean ⟨kind, fields⟩ => beanDocument kind fields (fieldDocuments fields)
  | .thing _ t => t.document
  | .grid _ ⟨rows, columns, cells⟩ => gridDocument rows columns (cellDocuments cells)
termination_by structural v => v

/-- Values. -/
def documents : List Value → List Document
  | [] => []
  | v :: vs => v.document :: documents vs
termination_by structural vs => vs

/-- Entries of a map. -/
def entryDocuments : List (Value × Value) → List (Document × Document)
  | [] => []
  | (k, v) :: es => (k.document, v.document) :: entryDocuments es
termination_by structural es => es

/-- Fields of a bean. -/
def fieldDocuments : List (String × Value) → List (String × Document)
  | [] => []
  | (n, v) :: fs => (n, v.document) :: fieldDocuments fs
termination_by structural fs => fs

/-- Cells of a grid. -/
def cellDocuments : List ((Nat × Nat) × Value) → List ((Nat × Nat) × Document)
  | [] => []
  | (c, v) :: cs => (c, v.document) :: cellDocuments cs
termination_by structural cs => cs

end

instance : ToDocument Value := ⟨Value.document⟩

instance : ToDocument (BeanOf Value) := ⟨fun b => (Value.bean b).document⟩

instance : ToDocument (Grid Value) := ⟨fun g => (Value.grid .made g).document⟩

instance : ToDocument Typed := ⟨fun t => t.toValue.document⟩

instance : ToDocument BeanError := ⟨fun e => .ofError e.kind e.message⟩

/-! ### Descriptions -/

/-- A property. -/
def MetaProperty.document (p : MetaProperty) : Document :=
  .record
    [("annotations", p.tags.map Tag.display), ("debug", p.debug), ("declaring", p.declaring.name),
      ("generic", p.generic.display), ("name", p.name), ("raw", p.raw.name),
       ("style", p.style.name)]

instance : ToDocument MetaProperty := ⟨MetaProperty.document⟩

/-- What can be done with a property of a style. -/
def PropertyStyle.document (s : PropertyStyle) : Document :=
  .record
    [("buildable", s.isBuildable), ("derived", s.isDerived), ("display", s.name),
      ("readable", s.isReadable), ("serializable", s.isSerializable), ("writable", s.isWritable)]

/-- What a way of access allows. -/
def Access.document (a : Access) : Document :=
  .record
    [("name", a.style.name), ("readable", a.isReadable), ("style", a.style.name),
      ("writable", a.isWritable)]

/-- A declared type. -/
def TypeInfo.document (t : TypeInfo) : Document :=
  let param (v : TypeVariable) : Document :=
    .list [v.declarer, v.name, v.bounds.map GenericType.display]
  .record
    [("component", t.component?.map TypeInfo.name), ("display", t.name), ("kind", t.kindName),
      ("name", t.name), ("params", t.params.map param), ("simple_name", t.simpleName),
      ("supertypes", t.supertypes.map GenericType.display)]

instance : ToDocument TypeInfo := ⟨TypeInfo.document⟩

/-- A resolved type; `again` says what became of its text when it was read. -/
def ResolvedType.document (again : String) (t : ResolvedType) : Document :=
  .record
    [("arguments", t.args.map ResolvedType.display), ("array", t.toArray.display),
      ("component", t.component?.map ResolvedType.display), ("debug", t.debug),
      ("display", t.display), ("first", (t.argument 0).display), ("generic", t.toGeneric.display),
      ("is_array", t.isArray), ("is_parameterized", t.isParameterized),
      ("is_primitive", t.isPrimitive), ("is_raw", t.isRaw), ("raw_type", t.raw.name),
      ("round_trip", again), ("third", (t.argument 2).display), ("to_raw", t.toRaw.display)]

/-- What there is to say of a meta-bean, by names; `builder` is what becomes of asking for one. -/
def MetaBean.described (m : MetaBean) : List (String × Document) :=
  [("all_annotations", m.tags.map Tag.display), ("bean_name", m.name),
    ("buildable", m.isBuildable), ("builder", m.builder.map fun _ => "ok"),
    ("count", m.table.size), ("debug", m.debug), ("display", m.type.name),
    ("empty", m.table.isEmpty), ("names", m.table.names),
    ("params", m.type.info.params.map TypeVariable.name), ("properties", m.table.properties),
    ("simple_name", m.type.simpleName),
    ("supertypes", m.type.info.supertypes.map GenericType.display),
    ("type_debug", m.type.debug)]

end Beans
