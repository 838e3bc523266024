import Beans.Text.Blank
import Beans.Value.Equality

/-!
# Typed values

The values of the value types, and the conversions between them and dynamic values. Converting to a
dynamic value and back gives the same typed value; converting a dynamic value may fail, or bring it
into the form of the type.

## Main definitions

* `Typed` — a value of some type.
* `Typed.toValue` — as a dynamic value.
* `ValueType.ofValue` — from a dynamic value.
* `ValueType.same`, `ValueType.feed` — equality of values of a type, and bytes that equal ones have
  in common.
* `ValueType.default?` — the value that a field has from the start.

## Implementation notes

Sets and maps hold each item and key once. Those with an order are in increasing order; in those
without one items are in the order in which they are gone through, which no result but that of
`Typed.toValue` depends on. Converting to a set or a map puts the items in increasing order, whichever
type it is of. Wrappers do not show in values.
-/

set_option autoImplicit false

namespace Beans

open Digest Number

/-- A value of some type. -/
inductive Typed
  | signed (i : Int64)
  | unsigned (u : UInt64)
  | double (x : Binary64)
  | single (x : Binary32)
  | bool (b : Bool)
  | char (c : Char)
  | text (s : String)
  | any (v : Value)
  | absent
  | present (item : Typed)
  | sequence (items : List Typed)
  | set (items : List Typed)
  | map (entries : List (Typed × Typed))
  | grid (g : Grid Typed)
  | bean (b : Bean)

/-! ### Dynamic values from typed ones -/

namespace Typed

mutual

/-- As a dynamic value. -/
def toValue : Typed → Value
  | signed i => .int i
  | unsigned u => .uint u
  | double x => .float x
  | single x => .float x.widen
  | bool b => .bool b
  | char c => .char c
  | text s => .text s
  | any v => v
  | absent => .optional none
  | present item => .optional (some item.toValue)
  | sequence items => .list (toValues items)
  | set items => .set (toValues items)
  | map entries => .map (toEntries entries)
  | grid ⟨rows, columns, cells⟩ => .grid .made ⟨rows, columns, toCells cells⟩
  | bean b => .bean b
termination_by structural t => t

/-- As dynamic values. -/
def toValues : List Typed → List Value
  | [] => []
  | t :: ts => t.toValue :: toValues ts
termination_by structural ts => ts

/-- As entries of dynamic values. -/
def toEntries : List (Typed × Typed) → List (Value × Value)
  | [] => []
  | (k, v) :: es => (k.toValue, v.toValue) :: toEntries es
termination_by structural es => es

/-- As cells with dynamic values. -/
def toCells : List ((Nat × Nat) × Typed) → List ((Nat × Nat) × Value)
  | [] => []
  | (c, v) :: cs => (c, v.toValue) :: toCells cs
termination_by structural cs => cs

end

/-- The order of typed values is that of the dynamic ones. -/
def compare (a b : Typed) : Ordering := a.toValue.compare b.toValue

/-- Things in increasing order of their keys with a further one; it takes the place of one with an
equal key. -/
def insertBy {α : Type} (key : α → Typed) (a : α) : List α → List α
  | [] => [a]
  | b :: bs => match (key a).compare (key b) with
    | .lt => a :: b :: bs
    | .eq => a :: bs
    | .gt => b :: insertBy key a bs

/-- Things in increasing order of their keys; of those with equal keys the last one counts. -/
def arrangeBy {α : Type} (key : α → Typed) (things : List α) : List α :=
  things.foldl (fun arranged a => insertBy key a arranged) []

/-- The set of some items. -/
def ofItems (items : List Typed) : Typed := set (arrangeBy id items)

/-- The map of some entries; of equal keys the last one counts. -/
def ofEntries (entries : List (Typed × Typed)) : Typed := map (arrangeBy Prod.fst entries)

end Typed

/-! ### Typed values from dynamic ones -/

/-- The error for a value of another kind. -/
def mismatch (expected : String) (found : Value) : BeanError :=
  .typeMismatch expected found.kindName

/-- An integer of a type. -/
def IntType.ofInt (t : IntType) (i : Int) : Except BeanError Typed :=
  if !t.contains i then .error (.typeMismatch t.name "out of range integer")
  else if t.isSigned then .ok (.signed (.ofInt i))
  else .ok (.unsigned (.ofNat i.toNat))

namespace ValueType

/-- The value of a type that a dynamic value stands for. -/
def ofValue : ValueType → Value → Except BeanError Typed
  | int t, .scalar (.int i) => t.ofInt i.toInt
  | int t, .scalar (.uint u) => t.ofInt u.toNat
  | int t, v => .error (mismatch t.name v)
  | double, .scalar (.float x) => .ok (.double x)
  | double, .scalar (.int i) => .ok (.double (.ofInt i.toInt))
  | double, .scalar (.uint u) => .ok (.double (.ofInt u.toNat))
  | double, v => .error (mismatch "f64" v)
  | single, .scalar (.float x) => .ok (.single x.narrow)
  | single, .scalar (.int i) => .ok (.single (.ofInt i.toInt))
  | single, .scalar (.uint u) => .ok (.single (.ofInt u.toNat))
  | single, v => .error (mismatch "f32" v)
  | bool, .scalar (.bool b) => .ok (.bool b)
  | bool, v => .error (mismatch "bool" v)
  | char, .scalar (.char c) => .ok (.char c)
  | char, v => .error (mismatch "char" v)
  | text, .scalar (.text s) => .ok (.text s)
  | text, v => .error (mismatch "String" v)
  | any, v => .ok (.any v)
  | option _, .scalar .null => .ok .absent
  | option _, .optional none => .ok .absent
  | option item, .optional (some v) => (item.ofValue v).map .present
  | option item, v => (item.ofValue v).map .present
  | wrapper _ item, v => item.ofValue v
  | sequence _ item, .list items => (items.mapM fun v => item.ofValue v).map .sequence
  | sequence _ item, .set items => (items.mapM fun v => item.ofValue v).map .sequence
  | sequence s _, v => .error (mismatch s.name v)
  | set _ item, .list items => (items.mapM fun v => item.ofValue v).map .ofItems
  | set _ item, .set items => (items.mapM fun v => item.ofValue v).map .ofItems
  | set s _, v => .error (mismatch s.setName v)
  | map _ key value, .map entries =>
    (entries.mapM fun (e : Value × Value) => do
      return (← key.ofValue e.1, ← value.ofValue e.2)).map .ofEntries
  | map s _ _, v => .error (mismatch s.mapName v)
  | grid item, .grid _ g =>
    (g.cells.mapM fun c => (item.ofValue c.2).map fun t => (c.1, t)).map fun cells =>
      .grid ⟨g.rows, g.columns, cells⟩
  | grid _, .thing _ _ => .error (.typeMismatch "Grid" "opaque value")
  | grid _, v => .error (mismatch "Grid" v)
  | bean t, .bean b =>
    if b.type.same t then .ok (.bean b) else .error (.typeMismatch t.key b.type.name)
  | bean t, v => .error (mismatch t.key v)
termination_by structural t => t

/-- A dynamic value in the form of a type. -/
def convert (t : ValueType) (v : Value) : Except BeanError Value := (t.ofValue v).map Typed.toValue

/-- The value that a field has from the start; there is none for beans and for values of any
type. -/
def default? : ValueType → Option Typed
  | int t => some (if t.isSigned then .signed 0 else .unsigned 0)
  | double => some (.double ⟨0⟩)
  | single => some (.single ⟨0⟩)
  | bool => some (.bool false)
  | char => some (.char '\x00')
  | text => some (.text "")
  | any => none
  | option _ => some .absent
  | wrapper _ item => item.default?
  | sequence _ _ => some (.sequence [])
  | set _ _ => some (.set [])
  | map _ _ _ => some (.map [])
  | grid _ => some (.grid (.empty 0 0))
  | bean _ => none

/-- The value that a builder starts with; of the other types a value has to be supplied. -/
def initial? : ValueType → Option Typed
  | bool => some (.bool false)
  | text => some (.text "")
  | option _ => some .absent
  | sequence _ _ => some (.sequence [])
  | set _ _ => some (.set [])
  | map _ _ _ => some (.map [])
  | int _ | double | single | char | any | wrapper _ _ | grid _ | bean _ => none

end ValueType

/-! ### Equality -/

namespace ValueType

/-- Whether two values of the type are equal. Tables without order are equal if they are of one size
and whatever is in the first is found in the second; those with an order are compared item by
item. -/
def same : ValueType → Typed → Typed → Bool
  | int _, .signed a, .signed b => a == b
  | int _, .unsigned a, .unsigned b => a == b
  | double, .double a, .double b => decide (a = b)
  | single, .single a, .single b => decide (a = b)
  | bool, .bool a, .bool b => a == b
  | char, .char a, .char b => a == b
  | text, .text a, .text b => a == b
  | any, .any a, .any b => a.same b
  | option _, .absent, .absent => true
  | option item, .present a, .present b => item.same a b
  | wrapper _ item, a, b => item.same a b
  | sequence _ item, .sequence as, .sequence bs =>
    as.length == bs.length && (as.zip bs).all fun (a, b) => item.same a b
  | set .hashed item, .set as, .set bs =>
    as.length == bs.length && as.all fun a => bs.any fun b => item.same a b
  | set .ordered item, .set as, .set bs =>
    as.length == bs.length && (as.zip bs).all fun (a, b) => item.same a b
  | map .hashed key value, .map as, .map bs =>
    as.length == bs.length && as.all fun a =>
      (bs.find? fun b => key.same a.1 b.1).any fun b => value.same a.2 b.2
  | map .ordered key value, .map as, .map bs =>
    as.length == bs.length &&
      (as.zip bs).all fun (a, b) => key.same a.1 b.1 && value.same a.2 b.2
  | grid item, .grid a, .grid b =>
    a.rows == b.rows && a.columns == b.columns && a.cells.length == b.cells.length &&
      (a.cells.zip b.cells).all fun (c, d) => c.1 == d.1 && item.same c.2 d.2
  | bean _, .bean a, .bean b => (Value.bean a).same (.bean b)
  | _, _, _ => false
termination_by structural t => t

/-- The bytes that equal values of the type have in common. -/
def feed : ValueType → Typed → Feed
  | int t, .signed i => lowBytes (t.width / 8) i.toUInt64
  | int t, .unsigned u => lowBytes (t.width / 8) u
  | double, .double x => ofWord x.bits
  | single, .single x => lowBytes 4 x.bits.toUInt64
  | bool, .bool b => ofBool b
  | char, .char c => lowBytes 4 (.ofNat c.toNat)
  | text, .text s => ofText s
  | any, .any v => v.feed
  | option _, .absent => ofTag 0
  | option item, .present a => ofTag 1 ++ item.feed a
  | wrapper _ item, a => item.feed a
  | sequence _ item, .sequence items => ofSequence (items.map item.feed)
  | set .hashed item, .set items => ofWord (unordered (items.map item.feed))
  | set .ordered item, .set items => ofSequence (items.map item.feed)
  | map .hashed key value, .map entries =>
    ofWord (entries.foldl (fun sum e =>
      sum + (digest (key.feed e.1) ^^^ turnLeft (digest (value.feed e.2)) 1)) 0)
  | map .ordered key value, .map entries =>
    ofSequence (entries.map fun e => key.feed e.1 ++ value.feed e.2)
  | grid item, .grid g =>
    ofNat g.rows ++ ofNat g.columns ++
      (g.cells.map fun c => ofNat c.1.1 ++ ofNat c.1.2 ++ item.feed c.2).flatten
  | bean _, .bean b => (Value.bean b).feed
  | _, _ => []
termination_by structural t => t

end ValueType

/-! ### Rules -/

/-- Whether nothing is in a text, a collection or an optional value. -/
def Value.isEmpty : Value → Bool
  | .scalar (.text s) => s.isEmpty
  | .list items => items.isEmpty
  | .set items => items.isEmpty
  | .map entries => entries.isEmpty
  | .optional none => true
  | .optional (some v) => v.isEmpty
  | _ => false

/-- Whether a text, or one in an optional value, holds blanks only. -/
def Value.isBlank : Value → Bool
  | .scalar (.text s) => Text.isBlankText s
  | .optional none => true
  | .optional (some v) => v.isBlank
  | _ => false

/-- Whether a value obeys a rule. -/
def Rule.holds (r : Rule) (v : Value) : Bool :=
  match r with
  | notNull => match v with
    | .optional none => false
    | _ => true
  | notEmpty => !v.isEmpty
  | notBlank => !v.isBlank
  | notNegative => match v with
    | .scalar (.int i) => decide (0 ≤ i.toInt)
    | _ => true

/-- The error for a value of a property that breaks a rule. -/
def Rule.check (r : Rule) (property : String) (v : Value) : Except BeanError Unit :=
  if r.holds v then .ok () else .error (.validation property r.message)

end Beans
