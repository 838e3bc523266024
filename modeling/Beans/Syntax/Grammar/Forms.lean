import Beans.Syntax.Item
import Beans.Syntax.Reader

/-!
# The forms of the grammar

The grammar is given layer by layer: a layer is a record of readers, one for each kind of phrase,
and the readers of a layer call those of the layer below wherever phrases nest. A text of `n`
tokens cannot nest deeper than a number of layers linear in `n`.

## Main definitions

* `Shape`, `PatternShape` — what a reader tells about the expression or pattern that it took.
* `Forms` — one layer.
-/

set_option autoImplicit false

namespace Beans.Syntax

/-- What matters about an expression to the phrase around it. -/
inductive Standing where
  /-- A range; no operator may follow it. -/
  | range
  /-- A comparison; no other comparison may follow it. -/
  | comparison
  /-- An expression in braces that stands alone as a statement. -/
  | blockLike
  /-- A macro call; `braced` tells its delimiter. -/
  | call (braced : Bool)
  | other
deriving DecidableEq, Repr

/-- The kind of an expression. -/
structure Shape where
  /-- The word for the kind. -/
  kind : String
  /-- What matters to the phrase around it. -/
  standing : Standing := .other
deriving DecidableEq, Repr

/-- An expression of which no more is known than its tokens. -/
def Shape.unparsed : Shape := ⟨"verbatim", .other⟩

/-- Whether an expression has to be followed by a separator in a list of statements or arms. -/
def Shape.needsSeparator (s : Shape) : Bool :=
  match s.standing with
  | .blockLike => false
  | .call braced => !braced
  | .range | .comparison | .other => true

/-- What matters about a pattern to the phrase around it. -/
inductive PatternShape where
  /-- A range without a start or without an end. -/
  | openRange
  /-- A pattern of which no more is known than its tokens. -/
  | unparsed
  | other
deriving DecidableEq, Repr

/-- A layer of readers. -/
structure Forms where
  /-- A type; the flag allows bounds joined by a plus sign. -/
  ty : Bool → Reader Ty
  /-- A bound. The flags allow the parameters that a type depends on, and constant traits. -/
  bound : Bool → Bool → Reader Bound
  /-- An expression; the flag allows struct literals. -/
  expr : Bool → Reader Shape
  /-- An operand with its prefix operators. -/
  operand : Bool → Reader Shape
  /-- The rest of an expression after an operand, for operators that bind at least so strongly. -/
  operators : Shape → Bool → Nat → Reader Shape
  /-- An expression where a statement or the body of an arm starts. -/
  leadingExpr : Reader Shape
  /-- A pattern; the flag allows alternatives. -/
  pattern : Bool → Reader PatternShape
  /-- The statements of a block. -/
  statements : Reader Unit
  /-- A named field of a declaration. -/
  field : Reader Field
  /-- An item. -/
  item : Reader Item
  /-- The tree of an import; the flag allows an entry to start at the root. -/
  useTree : Bool → Reader (Option UseTree)

/-- The layer in which nothing can be read. -/
def Forms.empty : Forms where
  ty _ := Reader.fail
  bound _ _ := Reader.fail
  expr _ := Reader.fail
  operand _ := Reader.fail
  operators _ _ _ := Reader.fail
  leadingExpr := Reader.fail
  pattern _ := Reader.fail
  statements := Reader.fail
  field := Reader.fail
  item := Reader.fail
  useTree _ := Reader.fail

end Beans.Syntax
