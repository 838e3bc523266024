import Beans.Bean.Fields
import Beans.Value.Display
import Beans.Value.Typed

/-!
# Access to beans

Reading and writing the properties of a bean by name, and through meta-properties.

## Main definitions

* `Bean.table` — the properties of a bean.
* `BeanProperty` — a bean with one of its properties.
* `MetaProperty.get`, `MetaProperty.set`, `MetaProperty.put` — access through a meta-property, which
  may belong to another type than the bean.
* `Bean.get`, `Bean.set`, `Bean.put` — access by a name or an alias.
* `Bean.putEntry`, `Bean.eraseEntry`, `Bean.define` — what beans with any properties offer.

## Implementation notes

A meta-property applies to the beans of one type, its holder. A property that the holder declares
itself refuses to be written before it looks at the bean; an inherited one looks at the bean first.
-/

set_option autoImplicit false

namespace Beans

/-! ### Descriptions -/

/-- A property of a bean with any properties. -/
def MetaProperty.ofEntry (type : BeanType) (name : String) (valueType : ResolvedType) :
    MetaProperty where
  name := name
  declaring := type
  holder := type
  generic := valueType.toGeneric
  style := .readWrite
  settable := true
  tags := []

/-- The properties for entries with the given names and types, unless two have one name. -/
def snapshot? (type : BeanType) (entries : List (String × ResolvedType)) :
    Except BeanError PropertyMap :=
  (entries.foldl (fun d e => d.property (.ofEntry type e.1 e.2)) (MapDraft.new type.name)).build

/-- The properties for entries with the given names and types; none at all if two have one name. -/
def snapshot (type : BeanType) (entries : List (String × ResolvedType)) : PropertyMap :=
  (snapshot? type entries).toOption.getD .empty

/-- The names with their declared types, the top type if none was declared. -/
def declaredEntries (types : List (String × ResolvedType)) (names : List String) :
    List (String × ResolvedType) :=
  names.map fun n => (n, (types.lookup n).getD .any)

/-- The properties of a bean of some kind with fields of the given names. -/
def BeanKind.table (kind : BeanKind) (names : List String) : PropertyMap :=
  match kind with
  | .record t => t.table
  | .flexible types => snapshot flexibleType (declaredEntries types names)
  | .sorted => snapshot sortedType (declaredEntries [] names)

/-- The tags of a kind of beans. -/
def BeanKind.tags : BeanKind → List Tag
  | record t => t.tags
  | flexible _ => []
  | sorted => []

namespace Bean

/-- The properties. -/
def table (b : Bean) : PropertyMap := b.kind.table (b.fields.map Prod.fst)

/-- The names of the properties. -/
def propertyNames (b : Bean) : List String := b.table.names

/-- The description of a property by its name or an alias. -/
def metaProperty (b : Bean) (name : String) : Except BeanError MetaProperty :=
  match b.table.find? name with
  | some p => .ok p
  | none => .error (.noSuchProperty b.type.name name)

/-! ### Own properties -/

/-- The value of the property with a name. -/
def read (b : Bean) (name : String) : Except BeanError Value :=
  match b.kind with
  | .record _ => match (b.slots.find? fun s => s.name == name).bind Slot.value? with
    | some v => .ok v
    | none => .error (.writeOnly name)
  | .flexible _ => .ok ((b.fields.lookup name).getD .null)
  | .sorted => .ok ((b.fields.lookup name).getD .null)

end Bean

/-- A text without the blanks at its ends; any other value as it is. -/
def Value.trimmed : Value → Value
  | .scalar (.text s) => .text (Text.trim s)
  | v => v

/-- The value that is kept for a dynamic value, if the property takes it. -/
def RecordProperty.accept (p : RecordProperty) (v : Value) : Except BeanError Value := do
  let v ← p.type.convert v
  match p.rule with
  | some r => r.check p.name v
  | none => pure ()
  return if p.trimmed then v.trimmed else v

/-- The bean with another value for the property with a name. -/
def Bean.write (b : Bean) (name : String) (v : Value) : Except BeanError Bean :=
  match b.kind with
  | .record t => match t.property? name with
    | some p => (p.accept v).map fun v => { b with fields := putField name v b.fields }
    | none => .error (.noSuchProperty b.type.name name)
  | .flexible _ => .ok { b with fields := putField name v b.fields }
  | .sorted => .ok { b with fields := putSorted name v b.fields }

/-! ### Access through meta-properties -/

namespace MetaProperty

/-- Fails unless the property applies to a bean. -/
def checkBean (p : MetaProperty) (b : Bean) : Except BeanError Unit :=
  if b.type.same p.holder then .ok ()
  else .error (.wrongBeanType p.name p.holder.name b.type.name)

/-- The value of the property on a bean. -/
def get (p : MetaProperty) (b : Bean) : Except BeanError Value := do
  p.checkBean b
  b.read p.name

/-- The bean with another value for the property. -/
def set (p : MetaProperty) (b : Bean) (v : Value) : Except BeanError Bean := do
  if !p.settable && !p.isInherited then throw (.readOnly p.name)
  p.checkBean b
  if !p.settable then throw (.readOnly p.name)
  b.write p.name v

/-- The value of the property on a bean, and the bean with another one. -/
def put (p : MetaProperty) (b : Bean) (v : Value) : Except BeanError (Value × Bean) := do
  let old ← p.get b
  return (old, ← p.set b v)

/-- The text of the property on a bean. -/
def getText (p : MetaProperty) (b : Bean) : Except BeanError String :=
  (p.get b).map Value.display

end MetaProperty

/-! ### Access by name -/

namespace Bean

/-- The value of a property. -/
def get (b : Bean) (name : String) : Except BeanError Value := do
  (← b.metaProperty name).get b

/-- The bean with another value for a property. -/
def set (b : Bean) (name : String) (v : Value) : Except BeanError Bean := do
  (← b.metaProperty name).set b v

/-- The value of a property, and the bean with another one. -/
def put (b : Bean) (name : String) (v : Value) : Except BeanError (Value × Bean) := do
  (← b.metaProperty name).put b v

end Bean

/-- A property of one bean. -/
structure BeanProperty where
  /-- The bean. -/
  bean : Bean
  /-- The description. -/
  description : MetaProperty

namespace BeanProperty

/-- The name. -/
def name (p : BeanProperty) : String := p.description.name

/-- The value. -/
def get (p : BeanProperty) : Except BeanError Value := p.description.get p.bean

/-- The property of the bean with another value. -/
def set (p : BeanProperty) (v : Value) : Except BeanError BeanProperty :=
  (p.description.set p.bean v).map fun b => { p with bean := b }

/-- The value, and the property of the bean with another one. -/
def put (p : BeanProperty) (v : Value) : Except BeanError (Value × BeanProperty) :=
  (p.description.put p.bean v).map fun (old, b) => (old, { p with bean := b })

/-- The text for developers. -/
def debug (p : BeanProperty) : String := "Property(" ++ p.description.debug ++ ")"

end BeanProperty

namespace Bean

/-- The property of a name or an alias. -/
def property (b : Bean) (name : String) : Except BeanError BeanProperty :=
  (b.metaProperty name).map (BeanProperty.mk b)

/-! ### Beans with any properties -/

/-- The value of an entry in the form of a type. -/
def entryAs? (b : Bean) (name : String) (t : ValueType) : Option Typed :=
  (b.fields.lookup name).bind fun v => (t.ofValue v).toOption

/-- Without properties, with any to come in their order. -/
def flexible : Bean := ⟨.flexible [], []⟩

/-- Without properties, with any to come in the order of their names. -/
def sorted : Bean := ⟨.sorted, []⟩

/-- The bean with an entry; what it held before. -/
def putEntry (b : Bean) (name : String) (v : Value) : Option Value × Bean :=
  (b.fields.lookup name,
    { b with fields := match b.kind with
      | .sorted => putSorted name v b.fields
      | .flexible _ => putField name v b.fields
      | .record _ => b.fields })

/-- The bean without an entry and its declared type; what it held. -/
def eraseEntry (b : Bean) (name : String) : Option Value × Bean :=
  match b.kind with
  | .flexible types =>
    (b.fields.lookup name, ⟨.flexible (eraseField name types), eraseField name b.fields⟩)
  | .sorted => (b.fields.lookup name, { b with fields := eraseField name b.fields })
  | .record _ => (none, b)

/-- The bean with a property of a declared type; a new property holds nothing. -/
def define (b : Bean) (name : String) (type : ResolvedType) : Bean :=
  let fields (put : List (String × Value)) : List (String × Value) :=
    if (b.fields.lookup name).isSome then b.fields else put
  match b.kind with
  | .flexible types =>
    ⟨.flexible (putField name type types), fields (putField name .null b.fields)⟩
  | .sorted => { b with fields := fields (putSorted name .null b.fields) }
  | .record _ => b

/-- The bean without entries and declared types. -/
def clear (b : Bean) : Bean :=
  match b.kind with
  | .flexible _ => flexible
  | .sorted => sorted
  | .record _ => b

/-- The bean with any properties that has the given entries, put in order. -/
def ofEntries (b : Bean) (entries : List (String × Value)) : Bean :=
  entries.foldl (fun b (n, v) => (b.putEntry n v).2) b

end Bean

end Beans
