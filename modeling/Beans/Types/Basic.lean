import Beans.Digest.Sip
import Beans.Text.Search

/-!
# Types

Descriptions of types as they are declared: a name, the parameters of a generic type with their
bounds, and the types it extends; and the types that can be written with them.

## Main definitions

* `TypeInfo` — a declared type, or the array of one.
* `TypeVariable`, `GenericType` — what can stand as the type of a property.
* `GenericType.erasure` — the declared type that is left without arguments.
* `TypeInfo.same`, `GenericType.same` — equality. Declared types are told apart by their names,
  variables by the names of their declarer and their own.

## Implementation notes

A declared type holds the types that it extends, so the descriptions are finite trees and every
function on them is structural.
-/

set_option autoImplicit false

namespace Beans

open Digest Text

mutual

/-- A declared type, or the array of one. -/
inductive TypeInfo
  /-- A type with its name, whether it is primitive, its parameters and what it extends. -/
  | declared (name : String) (primitive : Bool) (params : List TypeVariable)
      (supertypes : List GenericType)
  /-- The array of a type, with parameters besides those of its component and with what it extends. -/
  | array (component : TypeInfo) (own : List TypeVariable) (supertypes : List GenericType)

/-- A parameter of a type. -/
inductive TypeVariable
  /-- A parameter with the name of the type that declares it, its own name and its bounds. -/
  | of (declarer name : String) (bounds : List GenericType)

/-- A type as it is written. -/
inductive GenericType
  /-- A type without arguments. -/
  | plain (raw : TypeInfo)
  /-- A type with arguments. -/
  | applied (raw : TypeInfo) (args : List GenericType)
  /-- The array of a type. -/
  | array (component : GenericType)
  /-- A parameter of a type. -/
  | param (var : TypeVariable)
  /-- Any type within bounds. -/
  | wildcard (upper lower : List GenericType)

end

/-! ### Declared types -/

namespace TypeInfo

/-- A type without parameters and supertypes. -/
def ofName (name : String) : TypeInfo := .declared name false [] []

/-- A primitive type. -/
def primitive (name : String) : TypeInfo := .declared name true [] []

/-- A type with unbounded parameters. -/
def generic (name : String) (params : List String) : TypeInfo :=
  .declared name false (params.map fun p => .of name p []) []

/-- The array of a type, which takes the arguments of its component. -/
def arrayOf (component : TypeInfo) : TypeInfo := .array component [] []

/-- The name. -/
def name : TypeInfo → String
  | declared name _ _ _ => name
  | array component _ _ => component.name ++ "[]"

/-- The parameters; those of an array come after those of its component. -/
def params : TypeInfo → List TypeVariable
  | declared _ _ params _ => params
  | array component own _ => component.params ++ own

/-- The types that it extends. -/
def supertypes : TypeInfo → List GenericType
  | declared _ _ _ supertypes => supertypes
  | array _ _ supertypes => supertypes

/-- Whether it is primitive. -/
def isPrimitive : TypeInfo → Bool
  | declared _ primitive _ _ => primitive
  | array .. => false

/-- The component of an array. -/
def component? : TypeInfo → Option TypeInfo
  | declared .. => none
  | array component _ _ => some component

/-- Whether it is an array. -/
def isArray (t : TypeInfo) : Bool := t.component?.isSome

/-- The name of the kind of type. -/
def kindName : TypeInfo → String
  | declared _ primitive _ _ => if primitive then "Primitive" else "Class"
  | array .. => "Array"

/-- The characters after the last pair of colons, if there is one. -/
def afterLastColons? : List Char → Option (List Char)
  | [] => none
  | c :: rest => afterLastColons? rest <|> stripStart? [':', ':'] (c :: rest)

/-- The part of the name after the last pair of colons. -/
def simpleName (t : TypeInfo) : String :=
  let cs := t.name.toList
  String.ofList ((afterLastColons? cs).getD cs)

/-- The type under all arrays. -/
def base : TypeInfo → TypeInfo
  | declared n p ps s => declared n p ps s
  | array component _ _ => component.base

/-- How many times it is an array. -/
def dimensions : TypeInfo → Nat
  | declared .. => 0
  | array component _ _ => component.dimensions + 1

/-- Whether two types are the same: they have the same name. -/
def same (a b : TypeInfo) : Bool := a.name == b.name

/-- The bytes that stand for a type. -/
def feed (t : TypeInfo) : Feed := ofText t.name

end TypeInfo

/-! ### Parameters -/

namespace TypeVariable

/-- The name of the type that declares it. -/
def declarer : TypeVariable → String
  | .of declarer _ _ => declarer

/-- Its own name. -/
def name : TypeVariable → String
  | .of _ name _ => name

/-- Its bounds. -/
def bounds : TypeVariable → List GenericType
  | .of _ _ bounds => bounds

/-- What tells it apart from others. -/
def key (v : TypeVariable) : String × String := (v.declarer, v.name)

end TypeVariable

/-- The parameter of a type by its name. -/
def TypeInfo.param? (t : TypeInfo) (name : String) : Option GenericType :=
  (t.params.find? fun v => v.name == name).map .param

/-! ### Types as they are written -/

/-- The type at the top of all types. -/
def TypeInfo.any : TypeInfo := .ofName "Any"

namespace GenericType

/-- A type with arguments, or without if there are none. -/
def ofArguments (raw : TypeInfo) : List GenericType → GenericType
  | [] => plain raw
  | a :: as => applied raw (a :: as)

mutual

/-- The declared type that is left without arguments: that of the first bound for a variable or a
wildcard, and the top type without bounds. -/
def erasure : GenericType → TypeInfo
  | plain raw => raw
  | applied raw _ => raw
  | array component => component.erasure.arrayOf
  | param (.of _ _ bounds) => firstErasure bounds
  | wildcard upper _ => firstErasure upper
termination_by structural t => t

/-- The declared type of the first bound. -/
def firstErasure : List GenericType → TypeInfo
  | [] => .any
  | bound :: _ => bound.erasure
termination_by structural ts => ts

end

mutual

/-- The text of a type. -/
def display : GenericType → String
  | plain raw => raw.name
  | applied raw args => raw.name ++ "<" ++ joinWith ", " (displayAll args) ++ ">"
  | array component => component.display ++ "[]"
  | param (.of _ name _) => name
  | wildcard [] _ => "_"
  | wildcard (bound :: _) _ => "_: " ++ bound.display
termination_by structural t => t

/-- The texts of types. -/
def displayAll : List GenericType → List String
  | [] => []
  | t :: ts => t.display :: displayAll ts
termination_by structural ts => ts

end

mutual

/-- Whether two types are the same. -/
def same : GenericType → GenericType → Bool
  | plain a, plain b => a.same b
  | applied a as, applied b bs => a.same b && sameAll as bs
  | array a, array b => a.same b
  | param a, param b => a.key == b.key
  | wildcard us ls, wildcard us' ls' => sameAll us us' && sameAll ls ls'
  | _, _ => false
termination_by structural t => t

/-- Whether two lists hold the same types. -/
def sameAll : List GenericType → List GenericType → Bool
  | [], [] => true
  | a :: as, b :: bs => a.same b && sameAll as bs
  | _, _ => false
termination_by structural ts => ts

end

mutual

/-- The bytes that stand for a type. -/
def feed : GenericType → Feed
  | plain raw => ofTag 0 ++ raw.feed
  | applied raw args => ofTag 1 ++ raw.feed ++ ofSequence (feedAll args)
  | array component => ofTag 2 ++ component.feed
  | param (.of declarer name _) => ofTag 3 ++ ofText declarer ++ ofText name
  | wildcard upper lower => ofTag 4 ++ ofSequence (feedAll upper) ++ ofSequence (feedAll lower)
termination_by structural t => t

/-- The bytes of types. -/
def feedAll : List GenericType → List Feed
  | [] => []
  | t :: ts => t.feed :: feedAll ts
termination_by structural ts => ts

end

end GenericType

end Beans
