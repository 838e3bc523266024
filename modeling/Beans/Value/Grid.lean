import Beans.Error

/-!
# Grids

Sparse tables: a number of rows and of columns, and the cells that hold something.

## Main definitions

* `Grid` — a grid; its cells are listed row by row.
* `Grid.get?`, `Grid.put`, `Grid.erase` — access to a cell.
* `Grid.map` — the grid of the images of the cells.
-/

set_option autoImplicit false

namespace Beans

/-- A sparse table. -/
structure Grid (α : Type) where
  /-- The number of rows. -/
  rows : Nat
  /-- The number of columns. -/
  columns : Nat
  /-- The filled cells by row and column, in increasing order of row and then column. -/
  cells : List ((Nat × Nat) × α)

namespace Grid

variable {α β : Type}

/-- Without filled cells. -/
def empty (rows columns : Nat) : Grid α := ⟨rows, columns, []⟩

/-- The number of filled cells. -/
def size (g : Grid α) : Nat := g.cells.length

/-- Whether no cell is filled. -/
def isEmpty (g : Grid α) : Bool := g.cells.isEmpty

/-- Whether the first cell comes before the second. -/
def isBefore (a b : Nat × Nat) : Bool := decide (a.1 < b.1 ∨ a.1 = b.1 ∧ a.2 < b.2)

/-- What a cell holds. -/
def get? (g : Grid α) (row column : Nat) : Option α := g.cells.lookup (row, column)

/-- The cells with one of them filled anew. -/
def insertCell (place : Nat × Nat) (value : α) : List ((Nat × Nat) × α) → List ((Nat × Nat) × α)
  | [] => [(place, value)]
  | c :: cs =>
    if place = c.1 then (place, value) :: cs
    else if isBefore place c.1 then (place, value) :: c :: cs
    else c :: insertCell place value cs

/-- Fills a cell; returns what it held before. -/
def put (g : Grid α) (row column : Nat) (value : α) : Except BeanError (Option α × Grid α) :=
  if row < g.rows ∧ column < g.columns then
    .ok (g.get? row column, { g with cells := insertCell (row, column) value g.cells })
  else
    .error (.validation "grid" s!"cell ({row}, {column}) outside {g.rows}x{g.columns}")

/-- Empties a cell; returns what it held. -/
def erase (g : Grid α) (row column : Nat) : Option α × Grid α :=
  (g.get? row column, { g with cells := g.cells.filter fun c => c.1 != (row, column) })

/-- The grid of the images. -/
def map (f : α → β) (g : Grid α) : Grid β :=
  ⟨g.rows, g.columns, g.cells.map fun c => (c.1, f c.2)⟩

end Grid

end Beans
