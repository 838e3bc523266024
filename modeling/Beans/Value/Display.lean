import Beans.Value.Basic

/-!
# Texts of values

The text of a value for readers, and that for developers. Collections are written in the order in
which they are stored.

## Main definitions

* `Value.display`, `Bean.display` — for readers.
* `Value.debug` — for developers.
-/

set_option autoImplicit false

namespace Beans

open Text

/-- The text of one slot of a bean; there is none if it is hidden. -/
def slotText? : Slot String → Option String
  | .hidden _ => none
  | .failed n => some (n ++ "=?")
  | .shown n s => some (n ++ "=" ++ s)

/-- The text of a bean from those of its slots. -/
def beanText (type : BeanType) (slots : List (Slot String)) : String :=
  type.simpleName ++ "\x7b" ++ joinWith ", " (slots.filterMap slotText?) ++ "\x7d"

/-- The text of a grid from those of its cells. -/
def gridText (rows columns : Nat) (cells : List ((Nat × Nat) × String)) : String :=
  let cellText (c : (Nat × Nat) × String) : String :=
    "(" ++ toString c.1.1 ++ ", " ++ toString c.1.2 ++ ")=" ++ c.2
  "Grid[" ++ toString rows ++ "x" ++ toString columns ++ "]\x7b" ++
    joinWith ", " (cells.map cellText) ++ "\x7d"

namespace Value

mutual

/-- The text for readers. -/
def display : Value → String
  | scalar s => s.display
  | list items => "[" ++ joinWith ", " (displayAll items) ++ "]"
  | set items => "\x7b" ++ joinWith ", " (displayAll items) ++ "\x7d"
  | map entries => "\x7b" ++ joinWith ", " (displayEntries entries) ++ "\x7d"
  | optional none => "None"
  | optional (some v) => "Some(" ++ v.display ++ ")"
  | bean ⟨kind, fields⟩ =>
    beanText kind.type (kind.slots fields (displayFields fields) Scalar.display)
  | thing _ _ => "<opaque>"
  | grid _ ⟨rows, columns, cells⟩ => gridText rows columns (displayCells cells)
termination_by structural v => v

/-- The texts of values. -/
def displayAll : List Value → List String
  | [] => []
  | v :: vs => v.display :: displayAll vs
termination_by structural vs => vs

/-- The texts of entries. -/
def displayEntries : List (Value × Value) → List String
  | [] => []
  | (k, v) :: es => (k.display ++ "=" ++ v.display) :: displayEntries es
termination_by structural es => es

/-- The texts of fields. -/
def displayFields : List (String × Value) → List (String × String)
  | [] => []
  | (n, v) :: fs => (n, v.display) :: displayFields fs
termination_by structural fs => fs

/-- The texts of cells. -/
def displayCells : List ((Nat × Nat) × Value) → List ((Nat × Nat) × String)
  | [] => []
  | (c, v) :: cs => (c, v.display) :: displayCells cs
termination_by structural cs => cs

end

mutual

/-- The text for developers. -/
def debug : Value → String
  | scalar s => s.debug
  | list items => "List([" ++ joinWith ", " (debugAll items) ++ "])"
  | set items => "Set([" ++ joinWith ", " (debugAll items) ++ "])"
  | map entries => "Map([" ++ joinWith ", " (debugEntries entries) ++ "])"
  | optional none => "Optional(None)"
  | optional (some v) => "Optional(Some(" ++ v.debug ++ "))"
  | bean b => "Bean(" ++ (bean b).display ++ ")"
  | thing _ _ => "Opaque(Any \x7b .. \x7d)"
  | grid _ _ => "Opaque(Any \x7b .. \x7d)"
termination_by structural v => v

/-- The texts of values. -/
def debugAll : List Value → List String
  | [] => []
  | v :: vs => v.debug :: debugAll vs
termination_by structural vs => vs

/-- The texts of entries. -/
def debugEntries : List (Value × Value) → List String
  | [] => []
  | (k, v) :: es => ("(" ++ k.debug ++ ", " ++ v.debug ++ ")") :: debugEntries es
termination_by structural es => es

end

end Value

/-- The text of a bean. -/
def Bean.display (b : Bean) : String := (Value.bean b).display

/-- The text of a bean with any properties for developers: its entries between braces. -/
def Bean.debugEntries (b : Bean) : String :=
  "\x7b" ++ joinWith ", " (b.fields.map fun (n, v) => quoted n ++ ": " ++ v.debug) ++ "\x7d"

end Beans
