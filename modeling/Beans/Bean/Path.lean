import Beans.Bean.Access
import Beans.Text.Letter
import Beans.Text.Search

/-!
# Paths of properties

A path leads from a bean through the beans inside it to a value: names of properties between dots,
each with a key in brackets if it means one item of a collection.

## Main definitions

* `PropertyPath` — a path.
* `PropertyPath.parse` — from text.
* `PropertyPath.find?` — the value at the end of a path, in the form of a type.
-/

set_option autoImplicit false

namespace Beans

open Text

/-- A step of a path. -/
structure PathSegment where
  /-- The name of the property. -/
  name : String
  /-- The key of the item. -/
  key : Option String
deriving DecidableEq, Repr

/-- A path: its last step, and those before it. -/
structure PropertyPath where
  /-- The text. -/
  text : String
  /-- The steps before the last one. -/
  before : List PathSegment
  /-- The last step. -/
  last : PathSegment
deriving DecidableEq, Repr

/-- Why a text is not a path. -/
inductive PathFault
  | empty
  | expectedBracket
  | invalidKey
  | unexpectedBracket
  | invalidName
deriving DecidableEq, Repr

/-- The text for the reader. -/
def PathFault.message : PathFault → String
  | empty => "path is empty"
  | expectedBracket => "expected ']' at end of segment"
  | invalidKey => "invalid key"
  | unexpectedBracket => "unexpected ']'"
  | invalidName => "invalid property name"

namespace PathSegment

/-- Whether a character may stand in a name. -/
def isNameChar (c : Char) : Bool := isAlphanumeric c || c == '_'

/-- The characters of a name as such, unless they are none or not all allowed. -/
def nameOf? (cs : List Char) : Except PathFault String :=
  if cs.isEmpty || !cs.all isNameChar then .error .invalidName else .ok (String.ofList cs)

/-- The characters of a key as such, unless they are none or hold a bracket. -/
def keyOf? (cs : List Char) : Except PathFault String :=
  if cs.isEmpty || cs.contains '[' || cs.contains ']' then .error .invalidKey
  else .ok (String.ofList cs)

/-- A step from its characters. -/
def parse (cs : List Char) : Except PathFault PathSegment :=
  match splitOnce '[' cs with
  | some (name, rest) => match stripEnd? [']'] rest with
    | none => .error .expectedBracket
    | some inner => do
      let key ← keyOf? inner
      return ⟨← nameOf? name, some key⟩
  | none =>
    if cs.contains ']' then .error .unexpectedBracket
    else (nameOf? cs).map fun name => ⟨name, none⟩

/-- The text of a step. -/
def display (s : PathSegment) : String :=
  match s.key with
  | some key => s.name ++ "[" ++ key ++ "]"
  | none => s.name

end PathSegment

/-! ### Reading paths -/

namespace PropertyPath

/-- The steps in pieces of text. -/
def parseSegments : List (List Char) → Except PathFault (List PathSegment)
  | [] => .ok []
  | cs :: rest => do
    let s ← PathSegment.parse cs
    return s :: (← parseSegments rest)

/-- A path from its text, or why there is none. -/
def parseText (text : String) : Except PathFault PropertyPath :=
  if text.isEmpty then .error .empty
  else do
    let segments ← parseSegments (cutWhere (· == '.') text.toList)
    match segments.getLast? with
    | some last => return ⟨text, segments.dropLast, last⟩
    | none => throw .empty

/-- A path from its text. -/
def parse (text : String) : Except BeanError PropertyPath :=
  (parseText text).mapError fun fault => .invalidPath text fault.message

/-- The text for developers. -/
def debug (p : PropertyPath) : String := "PropertyPath(" ++ p.text ++ ")"

end PropertyPath

/-! ### Following paths -/

/-- The index that a key stands for: a decimal number below `2 ^ 64`. -/
def keyIndex? (key : String) : Option Nat := decimalNat? (Nat.pow 2 64 - 1) key.toList

/-- The item of a collection that a key stands for; in a map, the first whose key has that text. -/
def Value.item? (v : Value) (key : String) : Option Value :=
  match v with
  | .list items => (keyIndex? key).bind fun i => items[i]?
  | .set items => (keyIndex? key).bind fun i => items[i]?
  | .map entries => (entries.find? fun e => e.1.display == key).map Prod.snd
  | _ => none

/-- What a whole value counts as: a map as the list of its values, and nothing as none. -/
def Value.whole? : Value → Option Value
  | .map entries => some (.list (entries.map Prod.snd))
  | .scalar .null => none
  | v => some v

/-- The value that a step leads to. -/
def PathSegment.follow? (s : PathSegment) (b : Bean) : Option Value := do
  let p ← b.table.find? s.name
  if !p.style.isReadable then none
  let v ← (p.get b).toOption
  match s.key with
  | none => v.unwrapOptional.whole?
  | some key => v.unwrapOptional.item? key

/-- The bean that some steps lead to. -/
def followAll? (b : Bean) : List PathSegment → Option Bean
  | [] => some b
  | s :: rest => do
    let v ← s.follow? b
    followAll? (← v.unwrapOptional.asBean?) rest

/-- A value in the form of a type, or what is inside it if it is optional. -/
def ValueType.find? (t : ValueType) (v : Value) : Option Typed :=
  match t.ofValue v, v with
  | .ok typed, _ => some typed
  | .error _, .optional (some inner) => (t.ofValue inner).toOption
  | .error _, _ => none

/-- The value at the end of a path, in the form of a type. -/
def PropertyPath.find? (p : PropertyPath) (t : ValueType) (b : Bean) : Option Typed := do
  let holder ← followAll? b p.before
  t.find? (← p.last.follow? holder)

end Beans
