import Beans.Bean.Builder

/-!
# Deep copies

Copies of beans that share nothing that can be changed. A bean is built again from copies of its
values; which objects are copied too, and not shared, depends on the tier.

## Main definitions

* `ClonerTier` — which objects are copied.
* `Cloner` — a tier with the types of things that have a copier.
* `Cloner.cloneValue`, `Cloner.cloneBean` — the copies.
* `CloneSetup` — the choice of a tier, which is made once.
-/

set_option autoImplicit false

namespace Beans

/-- Which objects are copied. -/
inductive ClonerTier
  /-- None. -/
  | collections
  /-- Things of the types that have a copier. -/
  | customTypes
  /-- Those things, and grids. -/
  | grids
deriving DecidableEq, Repr

/-- The name of a tier. -/
def ClonerTier.name : ClonerTier → String
  | collections => "Collections"
  | customTypes => "CustomTypes"
  | grids => "Grids"

/-- The tier of a name. -/
def ClonerTier.ofName? (name : String) : Option ClonerTier :=
  [collections, customTypes, grids].find? fun t => t.name == name

/-- A tier with the types of things that have a copier. -/
structure Cloner where
  /-- The tier. -/
  tier : ClonerTier
  /-- The names of the types. -/
  copiers : List String

namespace Cloner

/-- The copy of a thing, or the thing itself. -/
def cloneThing (c : Cloner) (identity : Identity) (t : Thing) : Value :=
  if c.tier != .collections && c.copiers.contains t.type then .thing identity.copy t
  else .thing identity t

/-- Gives a builder the copies of values. -/
def feedBuilder (b : Builder) :
    List (MetaProperty × Except BeanError Value) → Except BeanError Builder
  | [] => .ok b
  | (p, v) :: rest => do feedBuilder (← b.setMeta p (← v)) rest

/-- Whether a property takes part in copying. -/
def isCopied (p : MetaProperty) : Bool := p.style.isBuildable && p.style.isReadable

/-- The properties that take part in copying, with the copies of their values. -/
def copiedParts (kind : BeanKind) (names : List String)
    (slots : List (Slot (Except BeanError Value))) :
    List (MetaProperty × Except BeanError Value) :=
  ((kind.table names).properties.filter isCopied).map fun p =>
    (p, match (slots.find? fun s => s.name == p.name).bind Slot.value? with
      | some v => v
      | none => .error (.writeOnly p.name))

/-- The bean that is built from the copies of the fields; a bean without a builder is left as it
is. -/
def rebuild (kind : BeanKind) (fields : List (String × Value))
    (copies : List (String × Except BeanError Value)) : Except BeanError Bean :=
  let metaBean : MetaBean := kind.metaBean
  if !metaBean.isBuildable then .ok ⟨kind, fields⟩
  else do
    let slots := kind.slots fields copies fun s => .ok (.scalar s)
    let b ← feedBuilder (← metaBean.builder) (copiedParts kind (fields.map Prod.fst) slots)
    b.build

mutual

/-- The copy of a value. -/
def cloneValue (c : Cloner) : Value → Except BeanError Value
  | .scalar s => .ok (.scalar s)
  | .list items => (c.cloneAll items).map .list
  | .set items => (c.cloneAll items).map .set
  | .map entries => (c.cloneEntries entries).map .map
  | .optional none => .ok (.optional none)
  | .optional (some v) => (c.cloneValue v).map fun v => .optional (some v)
  | .bean ⟨kind, fields⟩ => (rebuild kind fields (c.cloneFields fields)).map .bean
  | .thing identity t => .ok (c.cloneThing identity t)
  | .grid identity ⟨rows, columns, cells⟩ =>
    if c.tier = .grids then
      (c.cloneCells cells).map fun cells => .grid identity.copy ⟨rows, columns, cells⟩
    else .ok (.grid identity ⟨rows, columns, cells⟩)
termination_by structural v => v

/-- The copies of values. -/
def cloneAll (c : Cloner) : List Value → Except BeanError (List Value)
  | [] => .ok []
  | v :: vs => do
    let v ← c.cloneValue v
    return v :: (← c.cloneAll vs)
termination_by structural vs => vs

/-- The copies of entries. -/
def cloneEntries (c : Cloner) : List (Value × Value) → Except BeanError (List (Value × Value))
  | [] => .ok []
  | (k, v) :: es => do
    let k ← c.cloneValue k
    let v ← c.cloneValue v
    return (k, v) :: (← c.cloneEntries es)
termination_by structural es => es

/-- The copies of fields, each of which may fail. -/
def cloneFields (c : Cloner) : List (String × Value) → List (String × Except BeanError Value)
  | [] => []
  | (n, v) :: fs => (n, c.cloneValue v) :: c.cloneFields fs
termination_by structural fs => fs

/-- The copies of cells. -/
def cloneCells (c : Cloner) :
    List ((Nat × Nat) × Value) → Except BeanError (List ((Nat × Nat) × Value))
  | [] => .ok []
  | (place, v) :: cs => do
    let v ← c.cloneValue v
    return (place, v) :: (← c.cloneCells cs)
termination_by structural cs => cs

end

/-- The copy of a bean. -/
def cloneBean (c : Cloner) (b : Bean) : Except BeanError Bean :=
  rebuild b.kind b.fields (c.cloneFields b.fields)

/-- The copy of an object, if it is one that is copied. -/
def cloneObject? (c : Cloner) : Value → Except BeanError (Option Value)
  | .thing identity t =>
    .ok (if c.tier != .collections && c.copiers.contains t.type then
      some (.thing identity.copy t) else none)
  | .grid identity g =>
    if c.tier = .grids then (c.cloneValue (.grid identity g)).map some else .ok none
  | _ => .ok none

end Cloner

/-! ### The choice of a tier -/

/-- The tier, once it is chosen, and the copiers. -/
structure CloneSetup where
  /-- The tier. -/
  installed : Option ClonerTier
  /-- The types of things that have a copier. -/
  copiers : List String

namespace CloneSetup

/-- Nothing is chosen. -/
def start : CloneSetup := ⟨none, []⟩

/-- Chooses a tier; another one than before is refused. -/
def install (s : CloneSetup) (tier : ClonerTier) : Except BeanError CloneSetup :=
  match s.installed with
  | none => .ok { s with installed := some tier }
  | some chosen =>
    if chosen = tier then .ok s
    else .error (.duplicateRegistration ("cloner tier " ++ tier.name))

/-- Adds a copier for a type of things. -/
def register (s : CloneSetup) (type : String) : CloneSetup :=
  { s with copiers := if s.copiers.contains type then s.copiers else s.copiers ++ [type] }

/-- The cloner in use; the first use chooses the tier without copies if none is chosen. -/
def active (s : CloneSetup) : Cloner × CloneSetup :=
  let tier := s.installed.getD .collections
  (⟨tier, s.copiers⟩, { s with installed := some tier })

/-- A cloner of some tier with the copiers. -/
def cloner (s : CloneSetup) (tier : ClonerTier) : Cloner := ⟨tier, s.copiers⟩

end CloneSetup

end Beans
