import Beans.Order.Sort
import Beans.Value.Basic

/-!
# Observations of values

What can be seen of a value from outside, as a tree of its own: collections without order are put
in order, and a bean is its type and what it shows. Comparing, equating and digesting values are
defined on observations.

## Main definitions

* `Observation` — what can be seen.
* `Observation.compareBy` — the order of observations for a given order of objects.
* `Value.observeBy`, `Value.observe` — what can be seen of a value.
* `Value.compareBy`, `Value.compare` — the order of values.

## Implementation notes

Values of different kinds are ordered by kind. Sequences are compared item by item, and then the
shorter comes first; maps by their keys and then by their values; beans by the values that they
show and then by the names of their types; objects by identity. Nothing fixes how two objects stand
to each other, so the order of objects is a parameter; `Identity.compare` is the one in use.
-/

set_option autoImplicit false

namespace Beans

/-- What can be seen of a value. -/
inductive Observation
  | scalar (s : Scalar)
  | list (items : List Observation)
  /-- The items in increasing order. -/
  | set (items : List Observation)
  /-- The keys in increasing order, and their values. -/
  | map (keys values : List Observation)
  | absent
  | present (item : Observation)
  | bean (type : BeanType) (slots : List (Slot Observation))
  | thing (identity : Identity)
  | grid (identity : Identity) (g : Grid Observation)

namespace Observation

/-- The place of the kind in the order of kinds. -/
def rank : Observation → Nat
  | scalar s => s.rank
  | list _ => 5
  | set _ => 6
  | map _ _ => 7
  | absent | present _ => 8
  | bean _ _ => 9
  | thing _ | grid _ _ => 10

/-- The identity of an object. -/
def identity? : Observation → Option Identity
  | thing i => some i
  | grid i _ => some i
  | _ => none

section

variable (objects : Identity → Identity → Ordering)

mutual

/-- The order of observations. -/
def compareBy : Observation → Observation → Ordering
  | scalar a, scalar b => a.compare b
  | list as, list bs => compareAllBy as bs
  | set as, set bs => compareAllBy as bs
  | map ks vs, map ks' vs' => (compareAllBy ks ks').then (compareAllBy vs vs')
  | absent, absent => .eq
  | absent, present _ => .lt
  | present _, absent => .gt
  | present a, present b => compareBy a b
  | bean t as, bean t' bs =>
    (compareShownBy as (bs.filterMap Slot.value?)).then (Ord.compare t.name t'.name)
  | thing i, thing j => objects i j
  | thing i, grid j _ => objects i j
  | grid i _, thing j => objects i j
  | grid i _, grid j _ => objects i j
  | a, b => Ord.compare a.rank b.rank
termination_by structural a => a

/-- The order of sequences. -/
def compareAllBy : List Observation → List Observation → Ordering
  | [], [] => .eq
  | [], _ :: _ => .lt
  | _ :: _, [] => .gt
  | a :: as, b :: bs => (compareBy a b).then (compareAllBy as bs)
termination_by structural as => as

/-- The order of the values that slots show and a sequence. -/
def compareShownBy : List (Slot Observation) → List Observation → Ordering
  | [], [] => .eq
  | [], _ :: _ => .lt
  | .hidden _ :: as, bs => compareShownBy as bs
  | .failed _ :: as, bs => compareShownBy as bs
  | .shown _ _ :: _, [] => .gt
  | .shown _ a :: as, b :: bs => (compareBy a b).then (compareShownBy as bs)
termination_by structural as => as

end

/-- Whether the first observation does not come after the second. -/
def leBy (a b : Observation) : Bool := compareBy objects a b != .gt

/-- Observations in increasing order; equal ones keep their order. -/
def sortBy (items : List Observation) : List Observation := Order.sortBy (leBy objects) items

/-- The order of entries: by key, then by value. -/
def compareEntryBy (a b : Observation × Observation) : Ordering :=
  (compareBy objects a.1 b.1).then (compareBy objects a.2 b.2)

/-- Whether the first entry does not come after the second. -/
def leEntryBy (a b : Observation × Observation) : Bool := compareEntryBy objects a b != .gt

/-- Entries in increasing order; equal ones keep their order. -/
def sortEntriesBy (entries : List (Observation × Observation)) :
    List (Observation × Observation) :=
  Order.sortBy (leEntryBy objects) entries

/-- The observation of a map with some entries. -/
def ofEntriesBy (entries : List (Observation × Observation)) : Observation :=
  let sorted := sortEntriesBy objects entries
  map (sorted.map Prod.fst) (sorted.map Prod.snd)

end

/-- The order of observations in use. -/
def compare (a b : Observation) : Ordering := compareBy Identity.compare a b

end Observation

namespace Value

section

variable (objects : Identity → Identity → Ordering)

mutual

/-- What can be seen of a value. -/
def observeBy : Value → Observation
  | scalar s => .scalar s
  | list items => .list (observeAllBy items)
  | set items => .set (Observation.sortBy objects (observeAllBy items))
  | map entries => .ofEntriesBy objects (observeEntriesBy entries)
  | optional none => .absent
  | optional (some v) => .present (observeBy v)
  | bean ⟨kind, fields⟩ =>
    .bean kind.type (kind.slots fields (observeFieldsBy fields) .scalar)
  | thing i _ => .thing i
  | grid i ⟨rows, columns, cells⟩ => .grid i ⟨rows, columns, observeCellsBy cells⟩
termination_by structural v => v

/-- What can be seen of values. -/
def observeAllBy : List Value → List Observation
  | [] => []
  | v :: vs => observeBy v :: observeAllBy vs
termination_by structural vs => vs

/-- What can be seen of entries. -/
def observeEntriesBy : List (Value × Value) → List (Observation × Observation)
  | [] => []
  | (k, v) :: es => (observeBy k, observeBy v) :: observeEntriesBy es
termination_by structural es => es

/-- What can be seen of fields. -/
def observeFieldsBy : List (String × Value) → List (String × Observation)
  | [] => []
  | (n, v) :: fs => (n, observeBy v) :: observeFieldsBy fs
termination_by structural fs => fs

/-- What can be seen of cells. -/
def observeCellsBy : List ((Nat × Nat) × Value) → List ((Nat × Nat) × Observation)
  | [] => []
  | (c, v) :: cs => (c, observeBy v) :: observeCellsBy cs
termination_by structural cs => cs

end

/-- The order of values. -/
def compareBy (a b : Value) : Ordering :=
  (observeBy objects a).compareBy objects (observeBy objects b)

end

/-- What can be seen of a value with the order of objects in use. -/
def observe (v : Value) : Observation := observeBy Identity.compare v

/-- The order of values in use. -/
def compare (a b : Value) : Ordering := compareBy Identity.compare a b

/-- Whether the first value does not come after the second. -/
def le (a b : Value) : Bool := a.compare b != .gt

/-- Values in increasing order; equal ones keep their order. -/
def sort (values : List Value) : List Value := Order.sortBy le values

end Value

end Beans
