/-!
# Documents

Trees of texts, numbers and truth values: the form in which beans and their descriptions are
exchanged with other programs.

## Main definitions

* `Document` — a document. The fields of a record are in the order of their names.
* `ToDocument` — the types whose values can be written as documents.

## Implementation notes

A value stands for its document wherever one is expected, so records can be written down as lists of
names and values.
-/

set_option autoImplicit false

namespace Beans

/-- A document. -/
inductive Document
  | null
  | bool (b : Bool)
  | number (i : Int)
  | text (s : String)
  | list (items : List Document)
  | record (fields : List (String × Document))
deriving Inhabited

namespace Document

/-! ### Reading -/

/-- The field of a name; without one it is nothing. -/
def get (d : Document) (key : String) : Document :=
  match d with
  | record fields => (fields.lookup key).getD null
  | _ => null

/-- Whether a record has a field. -/
def has (d : Document) (key : String) : Bool :=
  match d with
  | record fields => (fields.lookup key).isSome
  | _ => false

/-- The text that a document is. -/
def asText? : Document → Option String
  | text s => some s
  | _ => none

/-- The truth value that a document is. -/
def asBool? : Document → Option Bool
  | bool b => some b
  | _ => none

/-- The number that a document is, unless it is negative. -/
def asNat? : Document → Option Nat
  | number (.ofNat n) => some n
  | _ => none

/-- The items of a list; any other document has none. -/
def items : Document → List Document
  | list items => items
  | _ => []

/-- The text in a field. -/
def text? (d : Document) (key : String) : Option String := (d.get key).asText?

/-- The text in a field, or the empty one. -/
def textAt (d : Document) (key : String) : String := (d.text? key).getD ""

/-- The truth value in a field. -/
def bool? (d : Document) (key : String) : Option Bool := (d.get key).asBool?

/-- Whether a field holds the true one. -/
def flag (d : Document) (key : String) : Bool := (d.bool? key).getD false

/-- The number in a field, or zero. -/
def natAt (d : Document) (key : String) : Nat := ((d.get key).asNat?).getD 0

/-- The items of the list in a field. -/
def itemsAt (d : Document) (key : String) : List Document := (d.get key).items

/-- The texts in the list in a field. -/
def textsAt (d : Document) (key : String) : List String := (d.itemsAt key).filterMap asText?

/-- An item of a list; without one it is nothing. -/
def item (d : Document) (index : Nat) : Document := (d.items[index]?).getD null

/-- The text of an item of a list, or the empty one. -/
def textOf (d : Document) (index : Nat) : String := (d.item index).asText?.getD ""

end Document

/-! ### Writing -/

/-- The types whose values can be written as documents. -/
class ToDocument (α : Type) where
  /-- The document for a value. -/
  toDocument : α → Document

export ToDocument (toDocument)

/-- A value stands for its document. -/
instance {α : Type} [ToDocument α] (a : α) : CoeT α a Document := ⟨toDocument a⟩

instance : ToDocument Document := ⟨id⟩

instance : ToDocument Bool := ⟨.bool⟩

instance : ToDocument Nat := ⟨fun n => .number n⟩

instance : ToDocument Int := ⟨.number⟩

instance : ToDocument String := ⟨.text⟩

/-- An absent value is nothing. -/
instance {α : Type} [ToDocument α] : ToDocument (Option α) where
  toDocument
    | some a => toDocument a
    | none => .null

instance {α : Type} [ToDocument α] : ToDocument (List α) := ⟨fun l => .list (l.map toDocument)⟩

/-- A pair is a list of two. -/
instance {α β : Type} [ToDocument α] [ToDocument β] : ToDocument (α × β) :=
  ⟨fun p => .list [toDocument p.1, toDocument p.2]⟩

/-- A result is what it holds, be it a value or an error. -/
instance {ε α : Type} [ToDocument ε] [ToDocument α] : ToDocument (Except ε α) where
  toDocument
    | .ok a => toDocument a
    | .error e => toDocument e

/-- Less is -1, and more is 1. -/
instance : ToDocument Ordering where
  toDocument
    | .lt => .number (-1)
    | .eq => .number 0
    | .gt => .number 1

namespace Document

/-- The record of an error: its kind and its message. -/
def ofError (kind message : String) : Document := record [("error", kind), ("message", message)]

end Document

end Beans
