import Beans.Syntax.Grammar.Patterns

/-!
# The grammar of expressions and statements

Readers of expressions, blocks and statements. Of an expression only its `Shape` is kept.

## Main definitions

* `binaryOperator?` — the operator that comes next and how strongly it binds.
* `Reader.operandIn`, `Reader.operatorsIn`, `Reader.exprIn`, `Reader.leadingExprIn` — one layer of
  expressions.
* `Reader.statementsIn` — one layer of the statements of a block.
-/

set_option autoImplicit false

namespace Beans.Syntax

/-! ### Strength of operators -/

/-- The strength of an assignment. -/
def assignStrength : Nat := 1

/-- The strength of a range. -/
def rangeStrength : Nat := 2

/-- The strength of a comparison. -/
def compareStrength : Nat := 6

/-- The strength of a conversion. -/
def castStrength : Nat := 13

/-- The binary operators with their strengths; one that starts with another one stands before it. -/
def binaryOperators : List (String × Nat) :=
  [("<<=", 1), (">>=", 1), ("+=", 1), ("-=", 1), ("*=", 1), ("/=", 1), ("%=", 1), ("^=", 1),
    ("&=", 1), ("|=", 1), ("&&", 4), ("||", 3), ("<<", 10), (">>", 10), ("==", 6), ("<=", 6),
    ("!=", 6), (">=", 6), ("+", 11), ("-", 11), ("*", 12), ("/", 12), ("%", 12), ("^", 8), ("&", 9),
    ("|", 7), ("<", 6), (">", 6)]

/-- The binary operator that comes next. -/
def binaryOperator? (ts : List Tok) : Option (String × Nat) :=
  binaryOperators.find? fun (o, _) => atOp o ts

/-- The strength of the operator that comes next, 0 if there is none. -/
def nextStrength (ts : List Tok) : Nat :=
  match binaryOperator? ts with
  | some (_, strength) => strength
  | none =>
    if atOp "=" ts && !atOp "=>" ts then assignStrength
    else if atOp ".." ts then rangeStrength
    else if atWord "as" ts then castStrength
    else 0

namespace Reader

/-- Whether a dot for an access comes next. -/
def atDot (ts : List Tok) : Bool := atOp "." ts && !atOp ".." ts

/-- Whether an expression may start. -/
def atExpr (ts : List Tok) : Bool :=
  atAnyIdent ts && !atWord "as" ts || atGroup .paren ts || atGroup .bracket ts ||
    atGroup .brace ts || atLit ts || atOp "!" ts && !atOp "!=" ts ||
    atOp "-" ts && !atOp "-=" ts && !atOp "->" ts || atOp "*" ts && !atOp "*=" ts ||
    atOp "|" ts && !atOp "|=" ts || atOp "&" ts && !atOp "&=" ts || atOp ".." ts ||
    atOp "<" ts && !atOp "<=" ts && !atOp "<<=" ts || atOp "::" ts || atLifetime ts || atOp "#" ts

/-! ### Operands -/

/-- Arguments of a call. -/
def arguments (f : Forms) : Reader Unit := skip (group .paren (commaList (f.expr true)))

/-- The places that a number with a point names, and whether a point ends it. -/
def pointedPlaces? (text : String) : Option (List Nat × Bool) :=
  let cs := text.toList
  let ended := cs.getLast? == some '.'
  let parts := Text.splitWhere (· == '.') (String.ofList (if ended then cs.dropLast else cs))
  (parts.mapM placeValue?).map fun places => (places, ended)

/-- The tokens of some places with dots between them. -/
def placeToks (l : Lines) (places : List Nat) : List Tok :=
  List.intercalate [.punct '.' false l] (places.map fun n => [.literal (toString n) l])

/-- What a single name or place behind a dot leads to. -/
def simpleAccess (f : Forms) : Reader Shape := do
  if ← tryWord "await" then pure ⟨"await", .other⟩
  else if ← asks atIdent then
    skip ident
    let typed ← asks (atOp "::")
    if typed then skip (angleArgs f)
    if typed || (← asks (atGroup .paren)) then
      arguments f
      pure ⟨"method_call", .other⟩
    else pure ⟨"field", .other⟩
  else
    place
    pure ⟨"field", .other⟩

/-- What follows a dot. A number with points names several places, one inside the other; a point at
its end is a further dot. -/
def access (f : Forms) : Reader Shape := do
  match ← ahead with
  | .literal text l :: _ =>
    if LiteralKind.ofText text == .float then
      match pointedPlaces? text with
      | some (places, false) =>
        advance 1 (placeToks l places)
        pure ⟨"field", .other⟩
      | some (places, true) =>
        advance 1 (placeToks l places ++ [.punct '.' false l])
        simpleAccess f
      | none => fail
    else simpleAccess f
  | _ => simpleAccess f

/-- Calls, accesses and indices behind an operand. -/
def trailers (f : Forms) (shape : Shape) : Reader Shape := do
  let going (ts : List Tok) : Bool :=
    atGroup .paren ts || atGroup .bracket ts || atDot ts || atOp "?" ts
  let list ← manyWhile going (do
    let ts ← ahead
    if atGroup .paren ts then
      arguments f
      pure ⟨"call", .other⟩
    else if atGroup .bracket ts then
      skip (group .bracket (f.expr true))
      pure ⟨"index", .other⟩
    else if ← tryOp "?" then pure ⟨"try", .other⟩
    else
      op "."
      access f)
  pure (list.getLast?.getD shape)

/-- A field of a struct literal. -/
def fieldValue (f : Forms) : Reader Unit := do
  skip (outerAttributes f)
  let named ← asks atIdent
  if named then skip ident else place
  if !named || (← asks (atOp ":")) then
    op ":"
    skip (f.expr true)

/-- The fields of a struct literal; a base for the other fields ends them. The number bounds
them. -/
def structFields (f : Forms) : Nat → Reader Unit
  | 0 => ensure List.isEmpty
  | n + 1 => do
    if ← asks List.isEmpty then pure ()
    else if ← tryOp ".." then when (fun ts => !ts.isEmpty) (skip (f.expr true))
    else
      fieldValue f
      when (fun ts => !ts.isEmpty) (do
        op ","
        structFields f n)

/-- A path, a macro call or a struct literal. -/
def pathExpr (f : Forms) (structs : Bool) : Reader Shape := do
  let plain ← exprPath f
  let ts ← ahead
  if atOp "!" ts && !atOp "!=" ts && plain then
    op "!"
    let d ← anyGroup
    pure ⟨"macro", .call (d == .brace)⟩
  else if structs && atGroup .brace ts then
    group .brace (do structFields f (← ahead).length)
    pure ⟨"struct", .other⟩
  else pure ⟨"path", .other⟩

/-- A parameter of a closure. Attributes before a pattern that is kept as it stands are not
written. -/
def closureInput (f : Forms) : Reader Unit := do
  let (_, attributes) ← silently (captured (outerAttributes f))
  let (shape, pattern) ← silently (captured (f.pattern false))
  let typed ← asks (atOp ":")
  write (if shape == .unparsed && !typed then pattern else attributes ++ pattern)
  if typed then
    op ":"
    skip (f.ty true)

/-- A closure. -/
def closure (f : Forms) (structs : Bool) : Reader Shape := do
  skip (binder f)
  skip (tryWord "const")
  skip (tryWord "static")
  skip (tryWord "async")
  skip (tryWord "move")
  op "|"
  skip (separated (atOp "|") "," (closureInput f))
  op "|"
  if ← tryOp "->" then
    skip (f.ty true)
    block f
  else skip (f.expr structs)
  pure ⟨"closure", .other⟩

/-- The condition of a branch or loop. -/
def header (f : Forms) : Reader Unit := skip (f.expr false)

/-- A branch; the number bounds the chain of alternatives. -/
def branch (f : Forms) : Nat → Reader Unit
  | 0 => fail
  | n + 1 => do
    word "if"
    header f
    block f
    if ← tryWord "else" then
      if ← asks (atWord "if") then branch f n else block f

/-- One arm of a selection. -/
def arm (f : Forms) : Reader Unit := do
  skip (outerAttributes f)
  skip (f.pattern true)
  if ← tryWord "if" then skip (f.expr true)
  op "=>"
  let shape ← f.leadingExpr
  let last ← asks List.isEmpty
  if last || shape.standing == .blockLike then skip (tryOp ",") else op ","

/-- A selection. -/
def selection (f : Forms) : Reader Unit := do
  word "match"
  header f
  group .brace (do
    innerAttributes f
    skip (manyUntil List.isEmpty (arm f)))

/-- A loop, if one comes next; gives the word for its kind. -/
def loop? (f : Forms) : Reader (Option String) := do
  if ← tryWord "while" then
    header f
    bodyBlock f
    pure (some "while")
  else if ← tryWord "for" then
    skip (f.pattern true)
    word "in"
    header f
    bodyBlock f
    pure (some "for_loop")
  else if ← tryWord "loop" then
    bodyBlock f
    pure (some "loop")
  else pure none

/-- A labelled loop or block. -/
def labelled (f : Forms) : Reader Shape := do
  skip lifetime
  op ":"
  match ← loop? f with
  | some kind => pure ⟨kind, .blockLike⟩
  | none =>
    bodyBlock f
    pure ⟨"block", .blockLike⟩

/-- Whether a block behind the given word comes next. -/
def atWordBlock (w : String) (ts : List Tok) : Bool := atWord w ts && atGroup .brace (skipOne ts)

/-- Whether an expression in braces comes next that stands alone as a statement. -/
def atBlockLike (ts : List Tok) : Bool :=
  atWords ["if", "match", "while", "loop", "unsafe"] ts ||
    atWord "for" ts && !atParameters (skipOne ts) || atWordBlock "try" ts ||
    atWordBlock "const" ts || atGroup .brace ts || atLifetime ts

/-- An expression in braces that stands alone as a statement. -/
def blockLike (f : Forms) : Reader Shape := do
  let ts ← ahead
  if atWord "if" ts then
    branch f (ts.length + 1)
    pure ⟨"if", .blockLike⟩
  else if atWord "match" ts then
    selection f
    pure ⟨"match", .blockLike⟩
  else if ← tryWord "try" then
    block f
    pure ⟨"try_block", .blockLike⟩
  else if ← tryWord "unsafe" then
    bodyBlock f
    pure ⟨"unsafe", .blockLike⟩
  else if ← tryWord "const" then
    bodyBlock f
    pure ⟨"const", .blockLike⟩
  else if atLifetime ts then labelled f
  else
    match ← loop? f with
    | some kind => pure ⟨kind, .blockLike⟩
    | none =>
      bodyBlock f
      pure ⟨"block", .blockLike⟩

/-- Items in parentheses: one without a comma stands for itself. -/
def parenthesized (f : Forms) : Reader Shape := group .paren (do
  if ← asks List.isEmpty then pure ⟨"tuple", .other⟩
  else
    skip (f.expr true)
    if ← asks List.isEmpty then pure ⟨"paren", .other⟩
    else
      op ","
      skip (commaList (f.expr true))
      pure ⟨"tuple", .other⟩)

/-- Items in brackets, or one item and how often it is repeated. -/
def bracketed (f : Forms) : Reader Shape := group .bracket (do
  if ← asks List.isEmpty then pure ⟨"array", .other⟩
  else
    skip (f.expr true)
    if ← tryOp ";" then
      skip (f.expr true)
      pure ⟨"repeat", .other⟩
    else
      when (fun ts => !ts.isEmpty) (do
        op ","
        skip (commaList (f.expr true)))
      pure ⟨"array", .other⟩)

/-- Whether a closure comes next. -/
def atClosure (ts : List Tok) : Bool :=
  let next := skipOne ts
  atOp "|" ts || atWords ["move", "static"] ts || atWord "for" ts && atParameters next ||
    atWord "const" ts && !atGroup .brace next ||
    atWord "async" ts && (atOp "|" next || atWord "move" next)

/-- A jump out of a loop or block, with its label and value. -/
def jumpOut (f : Forms) (structs : Bool) : Reader Unit := do
  word "break"
  if (← optional atLifetime lifetime).isSome then ensure fun ts => !atOp ":" ts
  when (fun ts => atExpr ts && (structs || !atGroup .brace ts)) (skip (f.expr true))

/-- A range from its dots on. -/
def rangeFrom (operand : Reader Unit) (structs : Bool) : Reader Unit := do
  let atEnd (ts : List Tok) : Bool :=
    ts.isEmpty || atOp "," ts || atOp ";" ts || atDot ts || atOp "?" ts ||
      !structs && atGroup .brace ts || atOp "=" ts || atOp "+" ts || atOp "/" ts || atOp "%" ts ||
      atOp "^" ts || atOp ">" ts || atOp "<=" ts || atOp "!=" ts || atOp "-=" ts || atOp "*=" ts ||
      atOp "&=" ts || atOp "|=" ts || atOp "<<=" ts || atWord "as" ts
  if ← tryOp "..=" then operand
  else
    ensure fun ts => !atOp "..." ts
    op ".."
    if ← asks atEnd then pure () else operand

/-- The right operand of an operator of some strength. -/
def rightOperand (f : Forms) (structs : Bool) (strength : Nat) : Reader Unit := do
  let shape ← f.operand structs
  let rec more : Nat → Shape → Reader Unit
    | 0, _ => pure ()
    | n + 1, shape => do
      let ts ← ahead
      let next := nextStrength ts
      if strength < next || next == strength && strength == assignStrength then
        let shape ← f.operators shape structs next
        if (← ahead).length < ts.length then more n shape
  more (← ahead).length shape

/-- An operand without prefix operators and trailers. -/
def atom (f : Forms) (structs : Bool) : Reader Shape := do
  let ts ← ahead
  let next := skipOne ts
  if atLit ts then
    literal
    pure ⟨"lit", .other⟩
  else if atWord "async" ts && (atGroup .brace next || atWordBlock "move" next) then
    word "async"
    skip (tryWord "move")
    block f
    pure ⟨"async", .other⟩
  else if atClosure ts then closure f structs
  else if atWord "builtin" ts && atOp "#" next then
    verbatim (do
      word "builtin"
      op "#"
      skip ident
      ensure (atGroup .paren)
      skip anyGroup)
    pure .unparsed
  else if atIdent ts || atOp "::" ts || atOp "<" ts ||
      atWords ["self", "Self", "super", "crate"] ts ||
      atWord "try" ts && (atOp "!" next || atOp "::" next) then
    pathExpr f structs
  else if atGroup .paren ts then parenthesized f
  else if atWord "break" ts then
    jumpOut f structs
    pure ⟨"break", .other⟩
  else if ← tryWord "continue" then
    skip (optional atLifetime lifetime)
    pure ⟨"continue", .other⟩
  else if ← tryWord "return" then
    when atExpr (skip (f.expr true))
    pure ⟨"return", .other⟩
  else if atWord "become" ts then
    verbatim (do
      word "become"
      skip (f.expr true))
    pure .unparsed
  else if atGroup .bracket ts then bracketed f
  else if ← tryWord "let" then
    skip (f.pattern true)
    op "="
    let lhs ← f.operand structs
    skip (f.operators lhs structs compareStrength)
    pure ⟨"let", .other⟩
  else if ← tryWord "yield" then
    when atExpr (skip (f.expr true))
    pure ⟨"yield", .other⟩
  else if atOp ".." ts then
    rangeFrom (rightOperand f structs rangeStrength) structs
    pure ⟨"range", .range⟩
  else if ← tryWord "_" then pure ⟨"infer", .other⟩
  else if atBlockLike ts then blockLike f
  else fail

/-- An operand in one layer, with its prefix operators and trailers. One that is kept as it stands
is so with its attributes; a range may not have any. -/
def operandIn (f : Forms) (structs : Bool) : Reader Shape := verbatimIf (· == .unparsed) (do
  let attributes ← outerAttributes f
  let ts ← ahead
  if ← tryOp "&" then
    let raw ← asks fun ts => atWord "raw" ts && atWords ["mut", "const"] (skipOne ts)
    if raw then
      word "raw"
      if ← tryWord "mut" then pure () else word "const"
    else skip (tryWord "mut")
    skip (f.operand structs)
    pure ⟨if raw then "unknown" else "reference", .other⟩
  else if atOp "*" ts then
    op "*"
    skip (f.operand structs)
    pure ⟨"unary", .other⟩
  else if atOp "!" ts then
    op "!"
    skip (f.operand structs)
    pure ⟨"unary", .other⟩
  else if atOp "-" ts then
    op "-"
    skip (f.operand structs)
    pure ⟨"unary", .other⟩
  else
    let shape ← atom f structs
    if shape.standing == .range then
      if attributes.isEmpty then pure shape else fail
    else trailers f shape)

/-- The rest of an expression in one layer: operators that bind at least so strongly. -/
def operatorsIn (f : Forms) (shape : Shape) (structs : Bool) (base : Nat) : Reader Shape := do
  let ts ← ahead
  if shape.standing == .range then pure shape
  else
    match binaryOperator? ts with
    | some (o, strength) =>
      if strength < base then pure shape
      else if strength == compareStrength && shape.standing == .comparison then fail
      else
        op o
        rightOperand f structs strength
        let standing := if strength == compareStrength then .comparison else .other
        f.operators ⟨"binary", standing⟩ structs base
    | none =>
      if base ≤ assignStrength && atOp "=" ts && !atOp "=>" ts then
        op "="
        rightOperand f structs assignStrength
        f.operators ⟨"assign", .other⟩ structs base
      else if base ≤ rangeStrength && atOp ".." ts then
        rangeFrom (rightOperand f structs rangeStrength) structs
        f.operators ⟨"range", .range⟩ structs base
      else if base ≤ castStrength && atWord "as" ts then
        word "as"
        skip (f.ty false)
        ensure fun ts =>
          !(atDot ts || atOp "?" ts || atGroup .bracket ts || atGroup .paren ts)
        f.operators ⟨"cast", .other⟩ structs base
      else pure shape

/-- An expression in one layer. -/
def exprIn (f : Forms) (structs : Bool) : Reader Shape := do
  let shape ← f.operand structs
  f.operators shape structs 0

/-- An expression where a statement or the body of an arm starts: one in braces ends there unless an
access follows it. Attributes before an operand that is kept as it stands are not written. -/
def leadingExprIn (f : Forms) : Reader Shape := do
  let (_, attributes) ← silently (captured (outerAttributes f))
  if ← asks atBlockLike then
    write attributes
    let shape ← blockLike f
    if ← asks fun ts => atDot ts || atOp "?" ts then
      let shape ← trailers f shape
      f.operators shape true 0
    else pure shape
  else
    let (shape, toks) ← silently (captured (f.operand true))
    write (if shape == .unparsed then toks else attributes ++ toks)
    f.operators shape true 0

/-! ### Statements -/

/-- Whether an item starts a statement. -/
def atItem (ts : List Tok) : Bool :=
  let next := skipOne ts
  let third := skipOne next
  atWords
      ["pub", "extern", "use", "fn", "mod", "type", "struct", "enum", "trait", "impl", "macro"]
      ts ||
    atWord "crate" ts && !atOp "::" next ||
    atWord "static" ts && (atWord "mut" next || atIdent next) ||
    atWord "const" ts && !(atGroup .brace next || atWord "static" next ||
      atWord "async" next && !atWords ["unsafe", "extern", "fn"] third ||
      atWord "move" next || atOp "|" next) ||
    atWord "unsafe" ts && !atGroup .brace next ||
    atWord "async" ts && atWords ["unsafe", "extern", "fn"] next ||
    atWord "union" ts && atIdent next || atWord "auto" ts && atWord "trait" next ||
    atWord "default" ts && atWords ["unsafe", "impl"] next

/-- The tokens after the path of a macro call, if one starts here. -/
def macroCall? (ts : List Tok) : Option (List Tok) :=
  match plainPath.front ts with
  | some (_, rest) => if atOp "!" rest then some (rest.drop 1) else none
  | none => none

/-- Whether a macro that declares a name starts here. -/
def atNamedMacro (ts : List Tok) : Bool :=
  (macroCall? ts).any fun rest => atIdent rest || atWord "try" rest

/-- Whether a macro call with braces stands here as a statement of its own. -/
def atBracedMacro (ts : List Tok) : Bool := (macroCall? ts).any fun rest =>
  atGroup .brace rest && !(atDot (skipOne rest) || atOp "?" (skipOne rest))

/-- A declaration of local names. An alternative needs a value that does not end in braces. -/
def localStatement (f : Forms) : Reader Unit := do
  word "let"
  skip (f.pattern false)
  if ← tryOp ":" then skip (f.ty true)
  if ← tryOp "=" then
    skip (f.expr true)
    if !(← endsInBraces) then
      if ← tryWord "else" then block f
  op ";"

/-- What stands where a statement starts. -/
inductive StatementKind where
  /-- A macro call with braces or a declaration of local names. -/
  | plain
  | item
  | expression
deriving DecidableEq

/-- Takes a statement that is no item and no expression, and tells what stands there. -/
def plainStatement (f : Forms) : Reader StatementKind := keptIf (· == .plain) (do
  skip (outerAttributes f)
  let ts ← ahead
  if atBracedMacro ts then
    skip plainPath
    op "!"
    skip anyGroup
    skip (tryOp ";")
    pure .plain
  else if atWord "let" ts then
    localStatement f
    pure .plain
  else if atItem ts || atNamedMacro ts then pure .item
  else pure .expression)

/-- A statement; gives whether another one may directly follow. -/
def statement (f : Forms) : Reader Bool := do
  match ← plainStatement f with
  | .plain => pure true
  | .item =>
    skip f.item
    pure true
  | .expression =>
    let shape ← f.leadingExpr
    if ← tryOp ";" then pure true else pure (!shape.needsSeparator)

/-- Statements up to the end; the number bounds them. -/
def statements (f : Forms) : Nat → Reader Unit
  | 0 => ensure List.isEmpty
  | n + 1 => do
    if ← asks List.isEmpty then pure ()
    else if ← tryOp ";" then statements f n
    else
      let free ← statement f
      if ← asks List.isEmpty then pure ()
      else if free then statements f n
      else fail

/-- The statements of a block in one layer. -/
def statementsIn (f : Forms) : Reader Unit := do statements f (← ahead).length

end Reader

end Beans.Syntax
