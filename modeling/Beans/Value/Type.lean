import Beans.Types.Resolved

/-!
# Types of values

The types that the values of a property can have.

## Main definitions

* `IntType` — the integer types.
* `BeanType` — the type of a bean.
* `ValueType` — the type of a value.
* `ValueType.resolved` — the type as a resolved type, with its arguments.
-/

set_option autoImplicit false

namespace Beans

/-- The integer types. -/
inductive IntType
  | i8
  | i16
  | i32
  | i64
  | isize
  | u8
  | u16
  | u32
  | u64
  | usize
deriving DecidableEq, Repr

namespace IntType

/-- The name. -/
def name : IntType → String
  | i8 => "i8"
  | i16 => "i16"
  | i32 => "i32"
  | i64 => "i64"
  | isize => "isize"
  | u8 => "u8"
  | u16 => "u16"
  | u32 => "u32"
  | u64 => "u64"
  | usize => "usize"

/-- Whether there are negative numbers. -/
def isSigned : IntType → Bool
  | i8 | i16 | i32 | i64 | isize => true
  | u8 | u16 | u32 | u64 | usize => false

/-- The number of bits. -/
def width : IntType → Nat
  | i8 | u8 => 8
  | i16 | u16 => 16
  | i32 | u32 => 32
  | i64 | u64 | isize | usize => 64

/-- Whether a number is in the range of the type. -/
def contains (t : IntType) (i : Int) : Bool :=
  if t.isSigned then decide (-(Nat.pow 2 (t.width - 1) : Int) ≤ i ∧ i < Nat.pow 2 (t.width - 1))
  else decide (0 ≤ i ∧ i < Nat.pow 2 t.width)

end IntType

/-- The type of a bean. -/
structure BeanType where
  /-- The name with the arguments; it tells bean types apart. -/
  key : String
  /-- The declared type with its arguments. -/
  resolved : ResolvedType

namespace BeanType

/-- The declared type. -/
def info (t : BeanType) : TypeInfo := t.resolved.raw

/-- The name without arguments. -/
def name (t : BeanType) : String := t.info.name

/-- The last part of the name. -/
def simpleName (t : BeanType) : String := t.info.simpleName

/-- Whether two types are the same. -/
def same (a b : BeanType) : Bool := a.key == b.key

/-- The text for developers. -/
def debug (t : BeanType) : String := "BeanType(" ++ t.name ++ ")"

/-- The type without parameters that has the given name. -/
def ofName (name : String) : BeanType := ⟨name, .ofRaw (.ofName name)⟩

end BeanType

/-- The wrappers that values do not show. -/
inductive WrapperType
  | box
  | arc
deriving DecidableEq, Repr

/-- The name. -/
def WrapperType.name : WrapperType → String
  | box => "Box"
  | arc => "Arc"

/-- The types of sequences. -/
inductive SequenceType
  | vec
  | deque
deriving DecidableEq, Repr

/-- The name. -/
def SequenceType.name : SequenceType → String
  | vec => "Vec"
  | deque => "VecDeque"

/-- The types of sets and of maps. -/
inductive TableType
  | hashed
  | ordered
deriving DecidableEq, Repr

/-- The name of the set. -/
def TableType.setName : TableType → String
  | hashed => "HashSet"
  | ordered => "BTreeSet"

/-- The name of the map. -/
def TableType.mapName : TableType → String
  | hashed => "HashMap"
  | ordered => "BTreeMap"

/-- The type of a value. -/
inductive ValueType
  | int (t : IntType)
  | double
  | single
  | bool
  | char
  | text
  /-- Any value. -/
  | any
  | option (item : ValueType)
  | wrapper (w : WrapperType) (item : ValueType)
  | sequence (s : SequenceType) (item : ValueType)
  | set (s : TableType) (item : ValueType)
  | map (s : TableType) (key value : ValueType)
  | grid (item : ValueType)
  | bean (t : BeanType)

namespace ValueType

/-- The name without arguments. -/
def name : ValueType → String
  | int t => t.name
  | double => "f64"
  | single => "f32"
  | bool => "bool"
  | char => "char"
  | text => "String"
  | any => "Value"
  | option _ => "Option"
  | wrapper w _ => w.name
  | sequence s _ => s.name
  | set s _ => s.setName
  | map s _ _ => s.mapName
  | grid _ => "Grid"
  | bean t => t.name

/-- Whether values are collections of items. -/
def isCollection : ValueType → Bool
  | sequence .. | set .. | map .. => true
  | int _ | double | single | bool | char | text | any | option _ | wrapper .. | grid _ | bean _ =>
    false

/-- The declared type. -/
def info : ValueType → TypeInfo
  | bean t => t.info
  | t => builtin t.name

/-- The type with its arguments. -/
def resolved : ValueType → ResolvedType
  | option item => .mk (builtin "Option") [item.resolved]
  | wrapper w item => .mk (builtin w.name) [item.resolved]
  | sequence s item => .mk (builtin s.name) [item.resolved]
  | set s item => .mk (builtin s.setName) [item.resolved]
  | map s key value => .mk (builtin s.mapName) [key.resolved, value.resolved]
  | grid item => .mk (builtin "Grid") [item.resolved]
  | bean t => t.resolved
  | int t => .ofRaw (builtin t.name)
  | double => .ofRaw (builtin "f64")
  | single => .ofRaw (builtin "f32")
  | bool => .ofRaw (builtin "bool")
  | char => .ofRaw (builtin "char")
  | text => .ofRaw (builtin "String")
  | any => .ofRaw (builtin "Value")

/-- The written form. -/
def generic (t : ValueType) : GenericType := t.resolved.toGeneric

end ValueType

end Beans
