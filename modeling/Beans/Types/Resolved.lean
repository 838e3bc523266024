import Beans.Error
import Beans.Types.Catalog

/-!
# Resolved types

Types without variables: a declared type with arguments that are resolved themselves, one for each
parameter, or none at all.

## Main definitions

* `ResolvedType` — a resolved type.
* `ResolvedType.of?` — from a type and its arguments.
* `ResolvedType.resolve` — a written type in the context of a declared one.
* `ResolvedType.toGeneric` — the written form.
* `collectionItem?`, `mapKey?`, `mapValue?` — the arguments of the types of collections.

## Implementation notes

In the context of a type, a parameter of one of its supertypes stands for the argument that the
supertype is given. `bindings` walks the supertypes depth first and keeps the first argument for
every parameter; it does not follow chains longer than `maxDepth`.
-/

set_option autoImplicit false

namespace Beans

open Digest Text

/-- A declared type with resolved arguments. -/
inductive ResolvedType
  | mk (raw : TypeInfo) (args : List ResolvedType)

namespace ResolvedType

/-- The declared type. -/
def raw : ResolvedType → TypeInfo
  | mk raw _ => raw

/-- The arguments. -/
def args : ResolvedType → List ResolvedType
  | mk _ args => args

/-- A type without arguments. -/
def ofRaw (raw : TypeInfo) : ResolvedType := mk raw []

/-- The top type. -/
def any : ResolvedType := ofRaw .any

/-- A type with its arguments, if there are none or one for each parameter. -/
def of? (raw : TypeInfo) (args : List ResolvedType) : Except BeanError ResolvedType :=
  if args.isEmpty || args.length == raw.params.length then .ok (mk raw args)
  else .error (.arityMismatch raw.name raw.params.length args.length)

/-- A type with declared types as its arguments. -/
def ofFlat? (raw : TypeInfo) (args : List TypeInfo) : Except BeanError ResolvedType :=
  of? raw (args.map ofRaw)

/-- An argument, or the top type. -/
def argument (t : ResolvedType) (index : Nat) : ResolvedType := t.args[index]?.getD any

/-- Whether the arguments are left out. -/
def isRaw (t : ResolvedType) : Bool := t.args.isEmpty && !t.raw.params.isEmpty

/-- Whether it has arguments. -/
def isParameterized (t : ResolvedType) : Bool := !t.args.isEmpty

/-- Whether it is an array. -/
def isArray (t : ResolvedType) : Bool := t.raw.isArray

/-- Whether it is primitive. -/
def isPrimitive (t : ResolvedType) : Bool := t.raw.isPrimitive

/-- Without the arguments. -/
def toRaw (t : ResolvedType) : ResolvedType := ofRaw t.raw

/-- The component of an array, with the same arguments. -/
def component? (t : ResolvedType) : Option ResolvedType :=
  t.raw.component?.map fun c => mk c t.args

/-- The array of it, with the same arguments. -/
def toArray (t : ResolvedType) : ResolvedType := mk t.raw.arrayOf t.args

end ResolvedType

/-- The written form of a type with arguments; those of an array belong to the type under it. -/
def TypeInfo.toGeneric (args : List GenericType) : TypeInfo → GenericType
  | .array component _ _ => .array (component.toGeneric args)
  | .declared n p ps s => .ofArguments (.declared n p ps s) args

namespace ResolvedType

mutual

/-- The written form. -/
def toGeneric : ResolvedType → GenericType
  | mk raw args => raw.toGeneric (toGenericAll args)
termination_by structural t => t

/-- The written forms. -/
def toGenericAll : List ResolvedType → List GenericType
  | [] => []
  | t :: ts => t.toGeneric :: toGenericAll ts
termination_by structural ts => ts

end

mutual

/-- The text of a type: the name under all arrays, the arguments, and the brackets of the arrays. -/
def display : ResolvedType → String
  | mk raw args =>
    raw.base.name ++ (if args.isEmpty then "" else "<" ++ joinWith ", " (displayAll args) ++ ">") ++
      timesText raw.dimensions "[]"
termination_by structural t => t

/-- The texts of types. -/
def displayAll : List ResolvedType → List String
  | [] => []
  | t :: ts => t.display :: displayAll ts
termination_by structural ts => ts

end

/-- The text of a type for developers. -/
def debug (t : ResolvedType) : String := "ResolvedType(" ++ t.display ++ ")"

mutual

/-- Whether two types are the same. -/
def same : ResolvedType → ResolvedType → Bool
  | mk a as, mk b bs => a.same b && sameAll as bs
termination_by structural t => t

/-- Whether two lists hold the same types. -/
def sameAll : List ResolvedType → List ResolvedType → Bool
  | [], [] => true
  | a :: as, b :: bs => a.same b && sameAll as bs
  | _, _ => false
termination_by structural ts => ts

end

end ResolvedType

/-! ### Resolving written types -/

/-- What the parameters of types stand for; the first entry of a parameter counts. -/
abbrev Bindings := List ((String × String) × ResolvedType)

namespace ResolvedType

mutual

/-- A written type with the parameters replaced. A parameter without a binding is its first bound,
in which no parameter is bound. -/
def ofGeneric (bindings : Bindings) : GenericType → ResolvedType
  | .plain raw => ofRaw raw
  | .applied raw args => mk raw (ofGenericAll bindings args)
  | .array component => (ofGeneric bindings component).toArray
  | .param (.of declarer name bounds) =>
    match bindings.lookup (declarer, name) with
    | some bound => bound
    | none => ofFirst [] bounds
  | .wildcard upper _ => ofFirst bindings upper
termination_by structural t => t

/-- Written types with the parameters replaced. -/
def ofGenericAll (bindings : Bindings) : List GenericType → List ResolvedType
  | [] => []
  | t :: ts => ofGeneric bindings t :: ofGenericAll bindings ts
termination_by structural ts => ts

/-- The first of some bounds, or the top type. -/
def ofFirst (bindings : Bindings) : List GenericType → ResolvedType
  | [] => any
  | bound :: _ => ofGeneric bindings bound
termination_by structural ts => ts

end

end ResolvedType

/-- The longest chain of supertypes that is followed. -/
def maxDepth : Nat := 64

/-- A parameter with its argument, unless it has one. -/
def Bindings.add (bindings : Bindings) (param : TypeVariable) (arg : GenericType) : Bindings :=
  if (bindings.lookup param.key).isSome then bindings
  else bindings ++ [(param.key, .ofGeneric bindings arg)]

/-- The parameters of a type with their arguments, each resolved with those before it. -/
def Bindings.addArguments (bindings : Bindings) (raw : TypeInfo) (args : List GenericType) :
    Bindings :=
  (raw.params.zip args).foldl (fun bs (param, arg) => bs.add param arg) bindings

mutual

/-- What a type's supertypes bind, after what is bound already; `depth` steps led to the type. -/
def TypeInfo.bindings (depth : Nat) (known : Bindings) : TypeInfo → Bindings
  | .declared _ _ _ supertypes | .array _ _ supertypes =>
    if maxDepth < depth then known else superBindings depth known supertypes
termination_by structural t => t

/-- What some supertypes bind. -/
def superBindings (depth : Nat) (known : Bindings) : List GenericType → Bindings
  | [] => known
  | t :: ts => superBindings depth (t.bindings depth known) ts
termination_by structural ts => ts

/-- What one supertype binds: its parameters, then what its own supertypes bind. -/
def GenericType.bindings (depth : Nat) (known : Bindings) : GenericType → Bindings
  | .plain raw => raw.bindings (depth + 1) (known.addArguments raw [])
  | .applied raw args => raw.bindings (depth + 1) (known.addArguments raw args)
  | .array _ => known
  | .param _ => known
  | .wildcard _ _ => known
termination_by structural t => t

end

/-- A written type in the context of a declared one. -/
def ResolvedType.resolve (t : GenericType) (context : TypeInfo) : ResolvedType :=
  .ofGeneric (context.bindings 0 []) t

/-! ### The types of collections -/

/-- The wrappers that a collection may be in. -/
def wrapperNames : List String := ["Option", "Arc", "Box"]

/-- The names of the types with one kind of items. -/
def collectionNames : List String := ["Vec", "VecDeque", "HashSet", "BTreeSet"]

/-- The names of the types with keys and values. -/
def mapNames : List String := ["HashMap", "BTreeMap"]

namespace ResolvedType

/-- The type inside all wrappers that have an argument. -/
def unwrapped : ResolvedType → ResolvedType
  | mk raw [] => mk raw []
  | mk raw (a :: as) => if wrapperNames.contains raw.name then a.unwrapped else mk raw (a :: as)

/-- The type of the items of a collection or an array. -/
def collectionItem? (t : ResolvedType) : Option ResolvedType :=
  let t := t.unwrapped
  if t.isArray then t.component?
  else if collectionNames.contains t.raw.name then some (t.argument 0) else none

/-- The type of the keys of a map. -/
def mapKey? (t : ResolvedType) : Option ResolvedType :=
  let t := t.unwrapped
  if mapNames.contains t.raw.name then some (t.argument 0) else none

/-- The type of the values of a map. -/
def mapValue? (t : ResolvedType) : Option ResolvedType :=
  let t := t.unwrapped
  if mapNames.contains t.raw.name then some (t.argument 1) else none

end ResolvedType

end Beans
