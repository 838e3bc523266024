import Beans.Bean.Builder
import Beans.Document.Basic
import Beans.Number.Hexadecimal

/-!
# Values from documents

Values and beans in the form in which `Value.document` writes them. Beans of a record type are
built from the values of their properties; if the type has no builder, the values are stored in
the default bean.

## Main definitions

* `Reading` — what reading needs: it counts the grids, and may fail.
* `Document.readValue`, `Document.readBean` — values and beans.

## Implementation notes

Things with one type and one content are the same object, while every grid that is read is an object
of its own.
-/

set_option autoImplicit false

namespace Beans

open Number

/-- Why a document is not what it is read as. -/
inductive ReadFault
  /-- It does not have the form. -/
  | malformed
  /-- A bean that it describes cannot be made. -/
  | bean (e : BeanError)

/-- Reading counts the grids, and may fail. -/
abbrev Reading := StateT Nat (Except ReadFault)

/-- A bean that cannot be made cannot be read. -/
instance : MonadLift (Except BeanError) Reading := ⟨fun r n => (r.mapError .bean).map (·, n)⟩

/-- The document does not have the form. -/
def malformed {α : Type} : Reading α := throw .malformed

/-- What is there, if the document has the form. -/
def orMalformed {α : Type} : Option α → Reading α
  | some a => pure a
  | none => malformed

/-- A grid that was read as an object of its own. -/
def freshGrid (g : Grid Value) : Reading Value := do
  let count ← get
  set (count + 1)
  return .grid (.named ("grid " ++ toString count) 0) g

/-- The builder to which the values of a bean are given. -/
def RecordType.readingBuilder (t : RecordType) : Builder :=
  match t.builder with
  | .ok b => b
  | .error _ => .editing t.default

namespace Document

variable (types : String → Option RecordType)

mutual

/-- A value. -/
def readValue : Document → Reading Value
  | .record [("null", _)] => return .null
  | .record [("bool", .bool b)] => return .bool b
  | .record [("char", .text s)] => return .char (← orMalformed s.toList.head?)
  | .record [("int", .text s)] => return .int (.ofInt (← orMalformed s.toInt?))
  | .record [("uint", .text s)] => return .uint (.ofNat (← orMalformed s.toNat?))
  | .record [("float", .text s)] => return .float ⟨.ofNat (← orMalformed (readHex? s))⟩
  | .record [("str", .text s)] => return .text s
  | .record [("list", .list items)] => return .list (← readAll items)
  | .record [("set", .list items)] => return .set (← readAll items)
  | .record [("map", .list entries)] => return .map (← readEntries entries)
  | .record [("none", _)] => return .optional none
  | .record [("some", item)] => return .optional (some (← readValue item))
  | .record [("flexi", .list fields)] =>
      return .bean (Bean.flexible.ofEntries (← readFields fields))
  | .record [("mapbean", .list fields)] =>
      return .bean (Bean.sorted.ofEntries (← readFields fields))
  | .record [("grid", .record [("cells", .list cells), ("columns", .number (.ofNat columns)),
      ("rows", .number (.ofNat rows))])] => do
    freshGrid (← readCells (.empty rows columns) cells)
  | .record [("bean", .text name), ("props", .list fields)] => do
    let t ← orMalformed (types name)
    return .bean (← (← readInto t.readingBuilder fields).build)
  | .record [(type, .number content)] =>
    return .thing (.named (type ++ " " ++ toString content) 0) ⟨type, content⟩
  | _ => malformed
termination_by structural d => d

/-- Values. -/
def readAll : List Document → Reading (List Value)
  | [] => return []
  | d :: ds => do
    let v ← readValue d
    return v :: (← readAll ds)
termination_by structural ds => ds

/-- Entries of a map. -/
def readEntries : List Document → Reading (List (Value × Value))
  | [] => return []
  | .list [k, v] :: ds => do
    let k ← readValue k
    let v ← readValue v
    return (k, v) :: (← readEntries ds)
  | _ :: _ => malformed
termination_by structural ds => ds

/-- Names with values. -/
def readFields : List Document → Reading (List (String × Value))
  | [] => return []
  | .list [.text name, v] :: ds => do
    let v ← readValue v
    return (name, v) :: (← readFields ds)
  | _ :: _ => malformed
termination_by structural ds => ds

/-- Fills cells of a grid. -/
def readCells (g : Grid Value) : List Document → Reading (Grid Value)
  | [] => return g
  | .list [.number (.ofNat row), .number (.ofNat column), v] :: ds => do
    let v ← readValue v
    readCells (← g.put row column v).2 ds
  | _ :: _ => malformed
termination_by structural ds => ds

/-- Gives values to a builder. -/
def readInto (b : Builder) : List Document → Reading Builder
  | [] => return b
  | .list [.text name, v] :: ds => do
    let v ← readValue v
    readInto (← b.set name v) ds
  | _ :: _ => malformed
termination_by structural ds => ds

end

/-- A bean. -/
def readBean (d : Document) : Reading Bean := do
  match ← readValue types d with
  | .bean b => return b
  | _ => malformed

end Document

end Beans
