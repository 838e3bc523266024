import Beans.Syntax.Grammar.Forms

/-!
# The grammar of attributes

Readers of attributes, outer and inner ones, and of what carries inner attributes: blocks.

## Main definitions

* `Reader.plainPath` — a path without arguments, as attributes and macros have it.
* `Reader.attributeValue` — the value behind an equals sign.
* `Reader.outerAttributes`, `Reader.innerAttributes` — the attributes before a phrase and inside it.
* `Reader.block`, `Reader.bodyBlock` — blocks without and with attributes of their own.
-/

set_option autoImplicit false

namespace Beans.Syntax.Reader

/-- The first line of the next token. -/
def nextLine : Reader Nat := do
  match ← ahead with
  | t :: _ => pure t.lines.first
  | [] => pure 0

/-- Segments without arguments; the number bounds them. -/
def plainSegments : Nat → Reader (List Segment)
  | 0 => fail
  | n + 1 => do
    ensure atPathWord
    let name ← anyIdent
    if ← tryOp "::" then
      let rest ← plainSegments n
      pure (.mk name .none :: rest)
    else pure [.mk name .none]

/-- A path without arguments. -/
def plainPath : Reader Path := do
  let rooted ← tryOp "::"
  let segments ← plainSegments (← ahead).length
  pure (.mk rooted segments)

/-- The value behind an equals sign. A literal that ends the tokens stands for itself, also one with
a minus; all else is an expression without attributes of its own. -/
def attributeValue (f : Forms) : Reader Shape := do
  match ← attempt (do
    literal
    ensure List.isEmpty) with
  | some () => pure ⟨"lit", .other⟩
  | none =>
    if ← asks fun ts => atOp "#" ts && atGroup .bracket (ts.drop 1) then fail else f.expr true

/-- The content of the brackets of an attribute. -/
def attributeContent (f : Forms) : Reader Meta := do
  let line ← nextLine
  let path ←
    if ← tryWord "unsafe" then pure (.mk false [.mk "unsafe" .none]) else plainPath
  match ← ahead with
  | .group d items l :: _ =>
    skip token
    pure ⟨path, .list d items, ⟨line, l.last⟩⟩
  | _ =>
    if ← tryOp "=" then
      let (_, toks) ← captured (attributeValue f)
      pure ⟨path, .value toks, ⟨line, (toks.getLast?.map fun t => t.lines.last).getD line⟩⟩
    else pure ⟨path, .word, ⟨line, line⟩⟩

/-- One outer attribute. -/
def outerAttribute (f : Forms) : Reader Attribute := do
  let line ← nextLine
  op "#"
  let last := ((← ahead).head?.map fun t => t.lines.last).getD line
  let content ← group .bracket (attributeContent f)
  pure ⟨content, ⟨line, last⟩⟩

/-- The outer attributes before an item, field or expression. -/
def outerAttributes (f : Forms) : Reader (List Attribute) := manyWhile (atOp "#") (outerAttribute f)

/-- The inner attributes at the start of what they belong to. -/
def innerAttributes (f : Forms) : Reader Unit :=
  skip (manyWhile (fun ts => atOp "#" ts && atOp "!" (ts.drop 1)) (do
    op "#"
    op "!"
    group .bracket (attributeContent f)))

/-- A block in braces. -/
def block (f : Forms) : Reader Unit := group .brace f.statements

/-- A block in braces that may start with attributes of its own. -/
def bodyBlock (f : Forms) : Reader Unit := group .brace (do
  innerAttributes f
  f.statements)

end Beans.Syntax.Reader
