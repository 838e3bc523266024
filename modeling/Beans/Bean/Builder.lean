import Beans.Bean.Access
import Beans.Bean.Arguments

/-!
# Builders

Building a bean value by value.

## Main definitions

* `Builder` — a bean in the making.
* `Builder.get`, `Builder.set`, `Builder.build` — what can be done with it.
* `MetaBean` — a bean type with its properties, which gives out builders.
* `Bean.toBuilder?` — a builder that starts with the values of a bean.

## Implementation notes

A builder that collects values needs one for every property whose type has no initial value. It
looks for those of the type's own properties first and then goes up to the parents; the rules are
applied the other way round, so a parent is complete and valid before the rules of the child are
looked at.
-/

set_option autoImplicit false

namespace Beans

/-- A bean in the making. -/
inductive Builder
  /-- A bean of a record type that is changed. -/
  | editing (b : Bean)
  /-- A bean with any properties that grows. -/
  | growing (b : Bean)
  /-- Values in the form of their types. -/
  | collecting (t : RecordType) (values : List (String × Value))
  /-- Values as they come, for a constructor. -/
  | buffering (t : RecordType) (steps : List ConstructorStep) (args : Arguments)

/-! ### Record types -/

namespace RecordType

/-- The default bean. -/
def default (t : RecordType) : Bean where
  kind := .record t
  fields := t.stored.map fun p => (p.name, (p.type.default?.map Typed.toValue).getD .null)

/-- The values that a builder starts with. -/
def initialValues (t : RecordType) : List (String × Value) :=
  t.stored.filterMap fun p => p.type.initial?.map fun v => (p.name, v.toValue)

/-- A builder for a bean of the type. -/
def builder (t : RecordType) : Except BeanError Builder :=
  match t.building with
  | .impossible => .error (.notBuildable t.type.name)
  | .editing => .ok (.editing t.default)
  | .collecting => .ok (.collecting t t.initialValues)
  | .buffering steps => .ok (.buffering t steps .empty)

/-- Whether there are builders. -/
def isBuildable (t : RecordType) : Bool :=
  match t.building with
  | .impossible => false
  | .editing | .collecting | .buffering _ => true

/-- The description of a property by its name or an alias. -/
def metaProperty (t : RecordType) (name : String) : Except BeanError MetaProperty :=
  match t.table.find? name with
  | some p => .ok p
  | none => .error (.noSuchProperty t.type.name name)

/-- The types that declare properties, from the type itself up to the first ancestor. -/
def declarers (t : RecordType) : List String :=
  (t.properties.map fun p => p.description.declaring.key).eraseDups.reverse

/-- The properties that need a value, in the order in which they are looked for. -/
def wanted (t : RecordType) : List RecordProperty :=
  t.declarers.flatMap fun key => t.stored.filter fun p => p.description.declaring.key == key

/-- Applies the rules of the properties to values. -/
def checkRules (values : List (String × Value)) : List RecordProperty → Except BeanError Unit
  | [] => .ok ()
  | p :: ps => do
    match p.rule, values.lookup p.name with
    | some r, some v => r.check p.name v
    | _, _ => pure ()
    checkRules values ps

/-- The bean with the collected values. -/
def collect (t : RecordType) (values : List (String × Value)) : Except BeanError Bean := do
  match t.wanted.find? fun p => (values.lookup p.name).isNone with
  | some p => throw (.validation p.name "no value supplied")
  | none => pure ()
  checkRules values t.stored
  return ⟨.record t, t.stored.map fun p => (p.name, (values.lookup p.name).getD .null)⟩

/-- The fields that the steps of a constructor make of arguments, after those that are made. -/
def construct (t : RecordType) (fields : List (String × Value)) (args : Arguments) :
    List ConstructorStep → Except BeanError (List (String × Value))
  | [] => .ok fields
  | .take name :: steps => do
    let p ← find name
    let (v, args) := args.take p.type name
    construct t (putField name (← v).toValue fields) args steps
  | .takeOrDefault name :: steps => do
    let p ← find name
    let (v, args) := args.takeOrDefault p.type name
    construct t (putField name (← v).toValue fields) args steps
  | .check name :: steps => do
    let p ← find name
    checkRules fields [p]
    construct t fields args steps
where
  /-- The property of a name. -/
  find (name : String) : Except BeanError RecordProperty :=
    match t.property? name with
    | some p => .ok p
    | none => .error (.noSuchProperty t.type.name name)

end RecordType

/-! ### Builders -/

namespace Builder

/-- The value of a property so far. -/
def get (b : Builder) (name : String) : Except BeanError Value :=
  match b with
  | editing bean => bean.get name
  | growing bean => .ok ((bean.fields.lookup name).getD .null)
  | collecting t values => do return (values.lookup (← t.metaProperty name).name).getD .null
  | buffering t _ args => do return (args.get? (← t.metaProperty name).name).getD .null

/-- The builder with a value for a property. -/
def set (b : Builder) (name : String) (v : Value) : Except BeanError Builder :=
  match b with
  | editing bean => (bean.set name v).map editing
  | growing bean => .ok (growing (bean.putEntry name v).2)
  | collecting t values => do
    let name := (← t.metaProperty name).name
    match t.property? name with
    | some p => return collecting t (putField name (← p.type.convert v) values)
    | none => throw (.noSuchProperty t.type.name name)
  | buffering t steps args => do
    let p ← t.metaProperty name
    if p.style.isBuildable then return buffering t steps (args.insert p.name v)
    else throw (.readOnly p.name)

/-- The builder with a value for the property that has the name of the given one. -/
def setMeta (b : Builder) (p : MetaProperty) (v : Value) : Except BeanError Builder :=
  b.set p.name v

/-- The bean. -/
def build : Builder → Except BeanError Bean
  | editing bean => .ok bean
  | growing bean => .ok bean
  | collecting t values => t.collect values
  | buffering t steps args => (t.construct [] args steps).map fun fields => ⟨.record t, fields⟩

/-- The builder after a list of values. -/
def setAll (b : Builder) : List (String × Value) → Except BeanError Builder
  | [] => .ok b
  | (n, v) :: rest => do setAll (← b.set n v) rest

end Builder

/-- A builder with the values of a bean, for the types that collect values. -/
def Bean.toBuilder? (b : Bean) : Option Builder :=
  match b.kind with
  | .record t => match t.building with
    | .collecting => some (.collecting t b.fields)
    | .impossible | .editing | .buffering _ => none
  | .flexible _ => none
  | .sorted => none

/-! ### Meta-beans -/

/-- A kind of beans with its properties. -/
structure MetaBean where
  /-- The kind. -/
  kind : BeanKind
  /-- The properties. -/
  table : PropertyMap

namespace MetaBean

/-- The bean type. -/
def type (m : MetaBean) : BeanType := m.kind.type

/-- The tags. -/
def tags (m : MetaBean) : List Tag := m.kind.tags

/-- The name of the bean type. -/
def name (m : MetaBean) : String := m.type.name

/-- A builder for a bean of the kind. -/
def builder (m : MetaBean) : Except BeanError Builder :=
  match m.kind with
  | .record t => t.builder
  | .flexible _ => .ok (.growing .flexible)
  | .sorted => .ok (.growing .sorted)

/-- Whether there are builders. -/
def isBuildable (m : MetaBean) : Bool :=
  match m.kind with
  | .record t => t.isBuildable
  | .flexible _ => true
  | .sorted => true

/-- The description of a property by its name or an alias. -/
def metaProperty (m : MetaBean) (name : String) : Except BeanError MetaProperty :=
  match m.table.find? name with
  | some p => .ok p
  | none => .error (.noSuchProperty m.name name)

/-- The text for developers. -/
def debug (m : MetaBean) : String := "MetaBean:" ++ m.type.simpleName

end MetaBean

/-- The meta-bean of a kind without entries. -/
def BeanKind.metaBean (kind : BeanKind) : MetaBean := ⟨kind, kind.table []⟩

/-- The meta-bean of a bean. -/
def Bean.metaBean (b : Bean) : MetaBean := ⟨b.kind, b.table⟩

end Beans
