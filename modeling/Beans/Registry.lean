import Beans.Bean.Builder

/-!
# The registry of meta-beans

The meta-beans that are known, by the types of their beans and by the names of these.

## Main definitions

* `Registry` — what is known.
* `Registry.register`, `Registry.registerBean`, `Registry.registerDynamic` — making known.
* `Registry.byKey`, `Registry.metaBean`, `Registry.byName`, `Registry.lookup` — finding.

## Implementation notes

Several types may have one name; the first one that was registered is found by it. The kinds of
beans with any properties are known without being registered, and give another meta-bean every
time.
-/

set_option autoImplicit false

namespace Beans

/-- What is known. -/
structure Registry where
  /-- The registered meta-beans by the keys of their types. -/
  metaBeans : List (String × MetaBean)
  /-- The keys of types by name. -/
  names : List (String × String)
  /-- The kinds whose meta-bean is asked of a default bean, by the keys of their types. -/
  dynamic : List (String × BeanKind)

namespace Registry

/-- Nothing is known. -/
def empty : Registry := ⟨[], [], []⟩

/-- Whether a type is registered. -/
def isRegistered (r : Registry) (t : BeanType) : Bool := (r.metaBeans.lookup t.key).isSome

/-- Registers a meta-bean; a type is registered once. -/
def register (r : Registry) (m : MetaBean) : Except BeanError Unit × Registry :=
  if r.isRegistered m.type then (.error (.duplicateRegistration m.name), r)
  else
    (.ok (),
      { r with
        metaBeans := r.metaBeans ++ [(m.type.key, m)]
        names :=
          if (r.names.lookup m.name).isSome then r.names else r.names ++ [(m.name, m.type.key)] })

/-- Registers the meta-bean of a kind of beans. -/
def registerBean (r : Registry) (kind : BeanKind) : Except BeanError Unit × Registry :=
  r.register kind.metaBean

/-- Makes a kind of beans known whose meta-bean is asked of a default bean. -/
def registerDynamic (r : Registry) (kind : BeanKind) : Registry :=
  { r with dynamic := putField kind.type.key kind r.dynamic }

/-- The meta-bean of the type of a key: the registered one, else that of a bean with any properties,
else that of a default bean; `name` is for the error. -/
def byKey (r : Registry) (key name : String) : Except BeanError MetaBean :=
  match r.metaBeans.lookup key with
  | some m => .ok m
  | none =>
    if key = flexibleType.key then .ok (BeanKind.flexible []).metaBean
    else if key = sortedType.key then .ok BeanKind.sorted.metaBean
    else match r.dynamic.lookup key with
      | some kind => .ok kind.metaBean
      | none => .error (.unknownBeanType name)

/-- The meta-bean of a kind of beans. -/
def metaBean (r : Registry) (kind : BeanKind) : Except BeanError MetaBean :=
  r.byKey kind.type.key kind.type.key

/-- The meta-bean of the type that was registered first under a name. -/
def byName (r : Registry) (name : String) : Except BeanError MetaBean :=
  match r.names.lookup name with
  | some key => r.byKey key name
  | none => .error (.unknownBeanType name)

/-- The meta-bean of a kind of beans, which is registered if it was not. -/
def lookup (r : Registry) (kind : BeanKind) : MetaBean × Registry :=
  match r.metaBeans.lookup kind.type.key with
  | some m => (m, r)
  | none => match r.register kind.metaBean with
    | (.ok (), r) => (kind.metaBean, r)
    | (.error _, r) => ((r.metaBeans.lookup kind.type.key).getD kind.metaBean, r)

/-- Whether a kind of beans has one and the same meta-bean every time. -/
def isShared (r : Registry) (kind : BeanKind) : Except BeanError Bool := do
  discard (r.metaBean kind)
  return r.isRegistered kind.type || !kind.isDynamic

end Registry

end Beans
