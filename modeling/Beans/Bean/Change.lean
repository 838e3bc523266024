import Beans.Bean.Builder

/-!
# Changes in place

Storing a value in a bean, or in a builder, that is changed where it is. A change that fails does not
take back what it did until then.

## Main definitions

* `Change` — a computation that changes a state in place.
* `RecordProperty.assign`, `MetaProperty.assign`, `Bean.assign` — store a value in a bean.
* `MetaProperty.exchange`, `Bean.exchange` — store a value and answer the one before.
* `Builder.supply` — stores a value in a builder.

## Implementation notes

The steps come in the order in which the program makes them: `Bean.set` and its kin say which bean there
is in the end, and these functions say how it is reached. A collection that is refilled is first
emptied.
-/

set_option autoImplicit false

namespace Beans

/-- A computation that changes a state in place. If it fails, the state is what it had become by
then. -/
abbrev Change (σ α : Type) := EStateM BeanError σ α

namespace Change

variable {σ τ α : Type}

/-- Goes on with a result that may have failed. -/
def ofResult : Except BeanError α → Change σ α
  | .ok a => pure a
  | .error e => throw e

/-- Changes a part of the state, from which the whole is made by `whole`. -/
def inside (whole : σ → τ) (part : σ) (c : Change σ α) : Change τ α := fun _ =>
  match c.run part with
  | .ok a part => .ok a (whole part)
  | .error e part => .error e (whole part)

/-- The result of a change and the state after it. -/
def answer (c : Change σ α) (s : σ) : Except BeanError α × σ :=
  match c.run s with
  | .ok a s => (.ok a, s)
  | .error e s => (.error e, s)

end Change

/-! ### Beans -/

/-- A collection without its items; any other value as it is. -/
def Value.emptied : Value → Value
  | .list _ => .list []
  | .set _ => .set []
  | .map _ => .map []
  | v => v

/-- The bean with something else in a field. -/
def Bean.withField (b : Bean) (name : String) (v : Value) : Bean :=
  { b with fields := putField name v b.fields }

/-- Puts a value in the field of a property. -/
def RecordProperty.fill (p : RecordProperty) (v : Value) : Change Bean Unit := do
  if p.refilled then
    modify fun b => b.withField p.name ((b.fields.lookup p.name).getD .null).emptied
  modify fun b => b.withField p.name v

/-- Stores a value in the field of a property: it is converted, checked, and only then put there. -/
def RecordProperty.assign (p : RecordProperty) (v : Value) : Change Bean Unit := do
  let v ← Change.ofResult (p.type.convert v)
  match p.rule with
  | some r => Change.ofResult (r.check p.name v)
  | none => pure ()
  p.fill (if p.trimmed then v.trimmed else v)

/-- Stores a value in the property with a name. -/
def Bean.assignOwn (name : String) (v : Value) : Change Bean Unit := do
  let b ← getThe Bean
  match b.kind with
  | .record t => match t.property? name with
    | some p => p.assign v
    | none => throw (.noSuchProperty b.type.name name)
  | .flexible _ => modify fun b => { b with fields := putField name v b.fields }
  | .sorted => modify fun b => { b with fields := putSorted name v b.fields }

/-- Stores a value in the property of a bean. -/
def MetaProperty.assign (p : MetaProperty) (v : Value) : Change Bean Unit := do
  if !p.settable && !p.isInherited then throw (.readOnly p.name)
  Change.ofResult (p.checkBean (← getThe Bean))
  if !p.settable then throw (.readOnly p.name)
  Bean.assignOwn p.name v

/-- Stores a value in the property of a bean; the value before. -/
def MetaProperty.exchange (p : MetaProperty) (v : Value) : Change Bean Value := do
  let old ← Change.ofResult (p.get (← getThe Bean))
  p.assign v
  return old

/-- Stores a value under a name or an alias. -/
def Bean.assign (name : String) (v : Value) : Change Bean Unit := do
  let p ← Change.ofResult ((← getThe Bean).metaProperty name)
  p.assign v

/-- Stores a value under a name or an alias; the value before. -/
def Bean.exchange (name : String) (v : Value) : Change Bean Value := do
  let p ← Change.ofResult ((← getThe Bean).metaProperty name)
  p.exchange v

/-! ### Builders -/

/-- Stores a value in a builder under a name or an alias. -/
def Builder.supply (name : String) (v : Value) : Change Builder Unit := do
  match ← getThe Builder with
  | .editing b => Change.inside .editing b (Bean.assign name v)
  | .growing b => Change.inside .growing b (modify fun b => (b.putEntry name v).2)
  | .collecting t values => do
    let p ← Change.ofResult (t.metaProperty name)
    match t.property? p.name with
    | some q =>
      let v ← Change.ofResult (q.type.convert v)
      modify fun _ => .collecting t (putField p.name v values)
    | none => throw (.noSuchProperty t.type.name p.name)
  | .buffering t steps args => do
    let p ← Change.ofResult (t.metaProperty name)
    if p.style.isBuildable then modify fun _ => .buffering t steps (args.insert p.name v)
    else throw (.readOnly p.name)

/-- Stores a value in a builder under the name of the given property. -/
def Builder.supplyMeta (p : MetaProperty) (v : Value) : Change Builder Unit := supply p.name v

end Beans
