import Beans.Syntax.Grammar.Types

/-!
# The grammar of patterns

Readers of patterns. Of a pattern only its `PatternShape` is kept.

## Main definitions

* `Reader.singlePattern` — a pattern without alternatives.
* `Reader.patternIn` — one layer of patterns.
-/

set_option autoImplicit false

namespace Beans.Syntax.Reader

/-- Whether alternatives follow a pattern. -/
def atAlternative (ts : List Tok) : Bool := atOp "|" ts && !atOp "||" ts && !atOp "|=" ts

/-- Whether a range pattern has no end. -/
def atOpenRange (ts : List Tok) : Bool :=
  ts.isEmpty || atOp "|" ts || atOp "=" ts || atColon ts || atOp "," ts || atOp ";" ts ||
    atWord "if" ts

/-- A path in an expression, perhaps behind a type in angle brackets; tells whether it is one of
plain words, as a macro has it. -/
def exprPath (f : Forms) : Reader Bool := do
  if ← asks (atOp "<") then
    skip (qualifiedPath f true)
    pure false
  else
    let p ← path f true
    pure p.isPlain

/-- The start or the end of a range pattern, or a constant. -/
def rangeBound (f : Forms) : Reader Unit := do
  let ts ← ahead
  if atLit ts then literal
  else if atIdent ts || atOp "::" ts || atOp "<" ts ||
      atWords ["self", "Self", "super", "crate"] ts then skip (exprPath f)
  else
    word "const"
    bodyBlock f

/-- The dots of a range in a pattern and its end; tells whether it has one. Three dots are written
as a closed range. -/
def rangeRest (f : Forms) : Reader Bool := do
  let ts ← ahead
  if atOp "..=" ts then
    op "..="
    rangeBound f
    pure true
  else if atOp "..." ts then
    advance 3 (asOperator (ts.take 2 ++ [.punct '=' false (ts.headD default).lines]))
    rangeBound f
    pure true
  else
    op ".."
    if ← asks atOpenRange then pure false
    else
      rangeBound f
      pure true

/-- A range after its start, if one comes next. -/
def rangeAfter (f : Forms) : Reader PatternShape := do
  if ← asks (atOp "..") then
    if ← rangeRest f then pure .other else pure .openRange
  else pure .other

/-- A field of a struct pattern after its attributes. -/
def fieldPattern (f : Forms) : Reader Unit := skip (verbatimIf id (do
  let boxed ← tryWord "box"
  let byRef ← tryWord "ref"
  let mutable ← tryWord "mut"
  if boxed || byRef || mutable then
    skip ident
    pure boxed
  else
    let named ← asks atIdent
    if named then skip ident else place
    if !named || (← asks (atOp ":")) then
      op ":"
      skip (f.pattern true)
    pure false))

/-- The fields of a struct pattern; dots for the other fields end them. The number bounds them. -/
def fieldPatterns (f : Forms) : Nat → Reader Unit
  | 0 => ensure List.isEmpty
  | n + 1 => do
    if ← asks List.isEmpty then pure ()
    else
      skip (outerAttributes f)
      if ← asks (atOp "..") then op ".."
      else
        fieldPattern f
        when (fun ts => !ts.isEmpty) (do
          op ","
          fieldPatterns f n)

/-- A pattern that starts with a path. -/
def pathPattern (f : Forms) : Reader PatternShape := do
  let plain ← exprPath f
  let ts ← ahead
  if atOp "!" ts && !atOp "!=" ts && plain then
    op "!"
    skip anyGroup
    pure .other
  else if atGroup .brace ts then
    group .brace (do fieldPatterns f (← ahead).length)
    pure .other
  else if atGroup .paren ts then
    skip (group .paren (commaList (f.pattern true)))
    pure .other
  else rangeAfter f

/-- Whether a pattern starts with a path. -/
def atPathPattern (ts : List Tok) : Bool :=
  let next := skipOne ts
  atIdent ts && (atOp "::" next || atOp "!" next || atGroup .brace next || atGroup .paren next ||
      atOp ".." next) ||
    atWord "self" ts && atOp "::" next || atOp "::" ts || atOp "<" ts ||
    atWords ["Self", "super", "crate"] ts

/-- A pattern inside brackets, where a range has to have a start and an end. -/
def slicePattern (f : Forms) : Reader Unit := do
  if (← f.pattern true) == .openRange then fail

/-- A pattern without alternatives. -/
def singlePattern (f : Forms) : Reader PatternShape := do
  let ts ← ahead
  if atPathPattern ts then pathPattern f
  else if atWord "_" ts then
    word "_"
    pure .other
  else if atWord "box" ts then
    verbatim (do
      word "box"
      skip (f.pattern false))
    pure .unparsed
  else if atOp "-" ts || atLit ts || atWord "const" ts then
    rangeBound f
    rangeAfter f
  else if atWords ["ref", "mut", "self"] ts || atIdent ts then
    skip (tryWord "ref")
    skip (tryWord "mut")
    if ← tryWord "self" then pure () else skip ident
    if ← tryOp "@" then skip (f.pattern false)
    pure .other
  else if atOp "&" ts then
    op "&"
    skip (tryWord "mut")
    skip (f.pattern false)
    pure .other
  else if atGroup .paren ts then
    skip (group .paren (commaList (f.pattern true)))
    pure .other
  else if atGroup .bracket ts then
    skip (group .bracket (commaList (slicePattern f)))
    pure .other
  else if atOp ".." ts && !atOp "..." ts then
    if ← rangeRest f then pure .openRange else pure .other
  else fail

/-- A pattern in one layer; the flag allows alternatives. -/
def patternIn (f : Forms) (alternatives : Bool) : Reader PatternShape := do
  if alternatives then
    let leading ← tryOp "|"
    let shape ← singlePattern f
    let others ← manyWhile atAlternative (do
      op "|"
      skip (singlePattern f))
    pure (if leading || !others.isEmpty then .other else shape)
  else singlePattern f

end Beans.Syntax.Reader
