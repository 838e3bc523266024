import Beans.Document.Read
import Beans.Types.Parse

/-!
# Types from documents

Written types as documents, and the names that declared types have in them.

## Main definitions

* `TypeScope` — what names of types mean: types that were declared, and those of a catalog.
* `TypeScope.named` — the type of a name.
* `TypeScope.readGeneric` — a written type.
* `ValueType.ofResolved?` — the type of values that a resolved type means.
-/

set_option autoImplicit false

namespace Beans

/-- What names of types mean. -/
structure TypeScope where
  /-- The types that were declared, the latest first. -/
  declared : List TypeInfo
  /-- The types of all scopes. -/
  catalog : Catalog

namespace TypeScope

/-- The type of a name without brackets; an unknown one is a new type. -/
def single (s : TypeScope) (name : String) : TypeInfo :=
  ((s.declared.find? fun t => t.name == name) <|> s.catalog.find? name).getD (builtin name)

/-- The type of a name whose characters come in reverse. -/
def ofReversed (s : TypeScope) : List Char → TypeInfo
  | ']' :: '[' :: rest => (s.ofReversed rest).arrayOf
  | cs => s.single (String.ofList cs.reverse)

/-- The type of a name; a pair of brackets at its end makes an array. -/
def named (s : TypeScope) (name : String) : TypeInfo := s.ofReversed name.toList.reverse

/-- With a declared type; it may be added to the catalog, where an earlier one of the name stays. -/
def declare (s : TypeScope) (t : TypeInfo) (shared : Bool) : TypeInfo × TypeScope :=
  let (t, catalog) := if shared then s.catalog.intern t else (t, s.catalog)
  (t, ⟨t :: s.declared, catalog⟩)

mutual

/-- A written type. -/
def readGeneric (s : TypeScope) : Document → Reading GenericType
  | .record [("class", .text name)] => return .plain (s.named name)
  | .record [("args", .list args), ("param", .text name)] =>
    return .ofArguments (s.named name) (← s.readGenerics args)
  | .record [("array", component)] => return .array (← s.readGeneric component)
  | .record [("of", .text declarer), ("var", .text name)] => return .param (.of declarer name [])
  | .record [("bounds", .list bounds), ("of", .text declarer), ("var", .text name)] =>
    return .param (.of declarer name (← s.readGenerics bounds))
  | .record [("of", .text type), ("own_var", .text name)] =>
    orMalformed ((s.named type).param? name)
  | .record [("wildcard", .list upper)] => return .wildcard (← s.readGenerics upper) []
  | .record [("lower", .list lower), ("wildcard", .list upper)] => do
    let upper ← s.readGenerics upper
    return .wildcard upper (← s.readGenerics lower)
  | _ => malformed
termination_by structural d => d

/-- Written types. -/
def readGenerics (s : TypeScope) : List Document → Reading (List GenericType)
  | [] => return []
  | d :: ds => do
    let t ← s.readGeneric d
    return t :: (← s.readGenerics ds)
termination_by structural ds => ds

end

end TypeScope

/-! ### Types of values -/

/-- The types of values without arguments, by name. -/
def plainValueTypes : List (String × ValueType) :=
  [IntType.i8, .i16, .i32, .i64, .isize, .u8, .u16, .u32, .u64, .usize].map
      (fun t => (t.name, .int t)) ++
    [("f32", .single), ("f64", .double), ("bool", .bool), ("char", .char), ("String", .text),
      ("Value", .any)]

/-- The type of values that a resolved type means; `bean?` knows the types of beans by their
texts. -/
def ValueType.ofResolved? (bean? : String → Option BeanType) : ResolvedType → Option ValueType
  | .mk raw [] => plainValueTypes.lookup raw.name <|> (bean? raw.name).map .bean
  | .mk raw [a] =>
    match raw.name with
    | "Option" => (ofResolved? bean? a).map .option
    | "Box" => (ofResolved? bean? a).map (.wrapper .box)
    | "Arc" => (ofResolved? bean? a).map (.wrapper .arc)
    | "Vec" => (ofResolved? bean? a).map (.sequence .vec)
    | "VecDeque" => (ofResolved? bean? a).map (.sequence .deque)
    | "HashSet" => (ofResolved? bean? a).map (.set .hashed)
    | "BTreeSet" => (ofResolved? bean? a).map (.set .ordered)
    | "Grid" => (ofResolved? bean? a).map .grid
    | name => (bean? (name ++ "<" ++ a.display ++ ">")).map .bean
  | .mk raw [a, b] =>
    match raw.name with
    | "HashMap" => do return .map .hashed (← ofResolved? bean? a) (← ofResolved? bean? b)
    | "BTreeMap" => do return .map .ordered (← ofResolved? bean? a) (← ofResolved? bean? b)
    | _ => none
  | _ => none

end Beans
