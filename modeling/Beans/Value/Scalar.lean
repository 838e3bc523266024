import Beans.Digest.Sip
import Beans.Number.Decimal
import Beans.Text.Quoted

/-!
# Scalars

The values without parts: nothing, truth values, characters, the three kinds of numbers, and texts.

## Main definitions

* `Scalar` — a scalar.
* `Scalar.compare` — the order of all scalars. Integers are compared exactly, and an integer and a
  floating-point number by what they are as 64-bit floating-point numbers; of numbers that are the
  same then, signed ones come first, then unsigned ones.
* `Scalar.display`, `Scalar.debug` — the texts for readers and for developers.
-/

set_option autoImplicit false

namespace Beans

open Digest Number Text

/-- A value without parts. -/
inductive Scalar
  | null
  | bool (b : Bool)
  | char (c : Char)
  /-- A signed number. -/
  | int (i : Int64)
  /-- An unsigned number. -/
  | uint (u : UInt64)
  | float (x : Binary64)
  | text (s : String)
deriving DecidableEq, Repr

namespace Scalar

/-- The name of the kind. -/
def kindName : Scalar → String
  | null => "Null"
  | bool _ => "Bool"
  | char _ => "Char"
  | int _ => "Int"
  | uint _ => "UInt"
  | float _ => "Float"
  | text _ => "String"

/-- The place of the kind in the order of kinds; all numbers are of one kind. -/
def rank : Scalar → Nat
  | null => 0
  | bool _ => 1
  | char _ => 2
  | int _ | uint _ | float _ => 3
  | text _ => 4

/-- A number as a 64-bit floating-point number. -/
def toBinary64? : Scalar → Option Binary64
  | int i => some (.ofInt i.toInt)
  | uint u => some (.ofInt u.toNat)
  | float x => some x
  | null | bool _ | char _ | text _ => none

/-- The place of the kind of number among numbers that are the same as floating-point numbers. -/
def numberRank : Scalar → Nat
  | int _ => 0
  | uint _ => 1
  | null | bool _ | char _ | float _ | text _ => 2

/-- The order of all scalars. -/
def compare : Scalar → Scalar → Ordering
  | bool a, bool b => Ord.compare a b
  | char a, char b => Ord.compare a b
  | int a, int b => Ord.compare a b
  | uint a, uint b => Ord.compare a b
  | int a, uint b => (Ord.compare a.toInt (b.toNat : Int)).then .lt
  | uint a, int b => (Ord.compare (a.toNat : Int) b.toInt).then .gt
  | text a, text b => Ord.compare a b
  | a, b =>
    match a.toBinary64?, b.toBinary64? with
    | some x, some y => (Ord.compare x.key y.key).then (Ord.compare a.numberRank b.numberRank)
    | _, _ => Ord.compare a.rank b.rank

/-- The bytes that stand for a scalar. -/
def feed (s : Scalar) : Feed :=
  ofTag s.rank ++ match s with
    | null => []
    | bool b => ofBool b
    | char c => ofNat c.toNat
    | int i => ofWord i.toUInt64
    | uint u => ofWord u
    | float x => ofWord x.bits
    | text s => ofText s

/-- The text for readers. -/
def display : Scalar → String
  | null => "null"
  | bool b => if b then "true" else "false"
  | char c => String.singleton c
  | int i => toString i.toInt
  | uint u => toString u.toNat
  | float x => x.text
  | text s => s

/-- The text for developers. -/
def debug : Scalar → String
  | null => "Null"
  | bool b => "Bool(" ++ (if b then "true" else "false") ++ ")"
  | char c => "Char(" ++ quotedChar c ++ ")"
  | int i => "Int(" ++ toString i.toInt ++ ")"
  | uint u => "UInt(" ++ toString u.toNat ++ ")"
  | float x => "Float(" ++ x.pointedText ++ ")"
  | text s => "String(" ++ quoted s ++ ")"

end Scalar

end Beans
