import Beans.Syntax.Grammar.Attributes

/-!
# The grammar of types

Readers of types, paths, bounds and generic parameters.

## Main definitions

* `Reader.path`, `Reader.qualifiedPath` — paths with arguments.
* `Reader.boundIn`, `Reader.tyIn` — one layer of bounds and of types.
* `Reader.genericParams`, `Reader.conditions` — the generics of a declaration.
-/

set_option autoImplicit false

namespace Beans.Syntax.Reader

/-! ### Generic parameters -/

/-- Whether a colon comes next, not a double one. -/
def atColon (ts : List Tok) : Bool := atOp ":" ts && !atOp "::" ts

/-- Whether parameters in angle brackets come next rather than a type. -/
def atParameters (ts : List Tok) : Bool :=
  let second := ts.drop 1
  let third := skipOne second
  atOp "<" ts && (atOp ">" second || atOp "#" second || atWord "const" second ||
    (atLifetime second || atIdent second) &&
      (atOp ">" third || atOp "," third || atColon third || atOp "=" third))

/-- Whether the bounds of a parameter end. -/
def atBoundsEnd (ts : List Tok) : Bool := ts.isEmpty || atOp "," ts || atOp ">" ts || atOp "=" ts

/-- The bounds of a lifetime, if there are any, up to where something holds. A colon without bounds
is not written. -/
def lifetimeBounds (stop : List Tok → Bool) : Reader Unit := when (atOp ":") (skip
  (writtenIf (fun list => !list.isEmpty) (do
    op ":"
    separatedWhile stop "+" lifetime)))

/-- The bounds behind a colon, if there are any, up to where something holds. A colon without bounds
is not written. -/
def optionalBounds (f : Forms) (stop : List Tok → Bool) : Reader (List Bound) := do
  if ← asks (atOp ":") then
    writtenIf (fun list => !list.isEmpty) (do
      op ":"
      separatedWhile stop "+" (f.bound false true))
  else pure []

/-- A literal, a name or a block, as the constant argument of a type. -/
def constArgument (f : Forms) : Reader Unit := do
  let ts ← ahead
  if atLit ts then literal
  else if atIdent ts then skip ident
  else bodyBlock f

/-- A declared parameter after its attributes; the flag allows one without a name. -/
def parameterBody (f : Forms) (blank : Bool) : Reader GenericParam := do
  let ts ← ahead
  if atLifetime ts then
    skip lifetime
    lifetimeBounds atBoundsEnd
    pure .lifetime
  else if atIdent ts then
    let name ← ident
    let bs ← optionalBounds f atBoundsEnd
    if ← tryOp "=" then skip (f.ty true)
    pure (.type name bs)
  else if atWord "const" ts then
    word "const"
    skip ident
    op ":"
    skip (f.ty true)
    if ← tryOp "=" then constArgument f
    pure .const
  else if blank && atWord "_" ts then
    word "_"
    pure (.type "_" [])
  else fail

/-- Whether a parameter is a lifetime. -/
def isLifetimeParam : GenericParam × Nat → Bool
  | (.lifetime, _) => true
  | _ => false

/-- The parameters of a declaration, if there are any. Brackets without parameters are not
written. -/
def genericParams (f : Forms) : Reader Generics := do
  if ← asks (atOp "<") then
    let line ← nextLine
    let params ← writtenIf (fun list => !list.isEmpty) (do
      op "<"
      let params ← lifetimesFirst isLifetimeParam (do
        let line ← nextLine
        skip (outerAttributes f)
        let param ← parameterBody f true
        pure (param, line))
      op ">"
      pure params)
    pure ⟨params, some line, none⟩
  else pure ⟨[], none, none⟩

/-- The parameters after `for`, if they come next; tells whether they did. -/
def binder (f : Forms) : Reader Bool := do
  if ← tryWord "for" then
    op "<"
    skip (separated (atOp ">") "," (do
      skip (outerAttributes f)
      parameterBody f false))
    op ">"
    pure true
  else pure false

/-! ### Paths -/

/-- The result type after an arrow, if one comes next. -/
def result (f : Forms) (plus : Bool) : Reader (Option Ty) := do
  if ← tryOp "->" then some <$> f.ty plus else pure none

/-- Input types in parentheses and a result type. -/
def callArgs (f : Forms) : Reader SegmentArgs := do
  let inputs ← group .paren (commaList (f.ty true))
  let output ← result f false
  pure (.call inputs output)

/-- Whether a constant that is no name comes next. -/
def atConstant (ts : List Tok) : Bool := atLit ts || atGroup .brace ts

/-- What follows a single name in angle brackets: the type or the bounds of an associated item. -/
def associated (f : Forms) (name : String) : Reader (Option GenericArg) := do
  if ← tryOp "=" then
    if ← asks atConstant then
      constArgument f
      pure none
    else
      let ty ← f.ty true
      pure (some (.assoc name ty))
  else
    op ":"
    skip (separatedWhile (fun ts => atOp "," ts || atOp ">" ts) "+" (f.bound false true))
    pure none

/-- An entry in angle brackets. -/
def genericArg (f : Forms) : Reader GenericArg := do
  let ts ← ahead
  if atLifetime ts && !atOp "+" (skipOne ts) then .lifetime <$> lifetime
  else
    let (arg, toks) ← captured (do
      if atConstant ts then
        constArgument f
        pure none
      else
        let ty ← f.ty true
        match ty with
        | .path (.mk false [.mk name _]) =>
          if ← asks fun ts => atOp "=" ts || atOp ":" ts then associated f name
          else pure (some (.type ty))
        | ty => pure (some (.type ty)))
    pure (arg.getD (.other toks))

/-- Whether an argument is a lifetime. -/
def isLifetimeArg : GenericArg → Bool
  | .lifetime _ => true
  | _ => false

/-- Arguments in angle brackets. -/
def angleArgs (f : Forms) : Reader SegmentArgs := do
  skip (tryOp "::")
  op "<"
  let args ← lifetimesFirst isLifetimeArg (genericArg f)
  op ">"
  pure (.angle args)

/-- A segment of a path. In an expression the arguments need a double colon before them. -/
def segment (f : Forms) (inExpr : Bool) : Reader Segment := do
  if ← asks (atWords ["super", "self", "crate", "try"]) then
    let name ← anyIdent
    pure (.mk name .none)
  else
    let name ← if ← asks (atWord "Self") then anyIdent else ident
    if ← asks fun ts => !inExpr && atOp "<" ts && !atOp "<=" ts && !atOp "<<=" ts ||
        atOp "::" ts && atOp "<" (ts.drop 2) then
      let args ← angleArgs f
      pure (.mk name args)
    else pure (.mk name .none)

/-- Segments up to one that no double colon follows, or only one before parentheses; the number
bounds them. -/
def segments (f : Forms) (inExpr : Bool) : Nat → Reader (List Segment)
  | 0 => fail
  | n + 1 => do
    let first ← segment f inExpr
    if ← asks fun ts => atOp "::" ts && !atGroup .paren (ts.drop 2) then
      op "::"
      let rest ← segments f inExpr n
      pure (first :: rest)
    else pure [first]

/-- A path in a type or, with double colons before arguments, in an expression. -/
def path (f : Forms) (inExpr : Bool) : Reader Path := do
  let rooted ← tryOp "::"
  let list ← segments f inExpr (← ahead).length
  pure (.mk rooted list)

/-- The segments of a path behind a type in angle brackets; gives the name of the last one. The
number bounds them. -/
def furtherSegments (f : Forms) (inExpr : Bool) : Nat → Reader String
  | 0 => fail
  | n + 1 => do
    let s ← segment f inExpr
    if ← tryOp "::" then furtherSegments f inExpr n else pure s.name

/-- A path behind a type in angle brackets; gives the name of its last segment. -/
def qualifiedPath (f : Forms) (inExpr : Bool) : Reader String := do
  op "<"
  skip (f.ty true)
  if ← tryWord "as" then skip (path f false)
  op ">"
  op "::"
  furtherSegments f inExpr (← ahead).length

/-! ### Bounds -/

/-- Whether a bound may follow a plus sign. -/
def atBound (conditional : Bool) (ts : List Tok) : Bool :=
  atAnyIdent ts || atOp "::" ts || atOp "?" ts || atLifetime ts || atGroup .paren ts ||
    conditional && atGroup .bracket ts

/-- Puts call arguments onto the last segment of a path. -/
def withCallArgs : List Segment → SegmentArgs → List Segment
  | [], _ => []
  | [.mk name _], args => [.mk name args]
  | s :: rest, args => s :: withCallArgs rest args

/-- Whether the last segment of a path has no arguments; brackets without any count as none. -/
def lastIsPlain (p : Path) : Bool :=
  match p.segments.getLast?.map Segment.args with
  | some .none | some (.angle []) => true
  | _ => false

/-- The tokens of a path without angle brackets that hold nothing, and without the double colon
before them. -/
def withoutEmptyArgs (toks : List Tok) : List Tok :=
  match toks.reverse with
  | .punct '>' _ _ :: .punct '<' _ _ :: .punct ':' _ _ :: .punct ':' _ _ :: rest => rest.reverse
  | .punct '>' _ _ :: .punct '<' _ _ :: rest => rest.reverse
  | _ => toks

/-- The path of a trait, with the arguments of a call in parentheses if it has some. -/
def traitPath (f : Forms) : Reader Path := do
  let (p, toks) ← silently (captured (path f false))
  let called ← asks fun ts => atGroup .paren ts || atOp "::" ts && atGroup .paren (ts.drop 2)
  if lastIsPlain p && called then
    write (withoutEmptyArgs toks)
    skip (silently (tryOp "::"))
    match p with
    | .mk rooted list => return .mk rooted (withCallArgs list (← callArgs f))
  else
    write toks
    pure p

/-- The inside of a trait bound; nothing is given for a constant trait. -/
def traitBound (f : Forms) (conditional : Bool) : Reader (Option Bound) := do
  let bound ← binder f
  let marked ←
    if ← asks (atGroup .bracket) then
      group .bracket (word "const")
      pure true
    else tryWord "const"
  if marked && !conditional then fail
  let relaxed ← tryOp "?"
  if relaxed && bound then fail
  let p ← traitPath f
  pure (if marked then none else some (.trait relaxed p))

/-- The parameters that a type depends on, lifetimes first. -/
def capturedParams : Reader Unit := do
  word "use"
  op "<"
  skip (lifetimesFirst id (do
    if ← asks atLifetime then
      skip lifetime
      pure true
    else
      ensure fun ts => atIdent ts || atWord "Self" ts
      skip token
      pure false))
  op ">"

/-- A bound in one layer. The flags allow the parameters that a type depends on, and constant
traits. -/
def boundIn (f : Forms) (captures conditional : Bool) : Reader Bound := do
  let ts ← ahead
  if atLifetime ts then .lifetime <$> lifetime
  else if atWord "use" ts then
    if !captures then fail
    let ((), toks) ← captured capturedParams
    pure (.captures toks)
  else
    let (bound, toks) ← captured (verbatimIf Option.isNone (
      if atGroup .paren ts then group .paren (traitBound f conditional)
      else traitBound f conditional))
    pure (bound.getD (.constant toks))

/-- Bounds joined by plus signs, or one bound only. -/
def bounds (f : Forms) (plus captures conditional : Bool) : Reader (List Bound) :=
  if plus then chained (atBound conditional) (f.bound captures conditional)
  else List.singleton <$> f.bound captures conditional

/-- Fails for bounds without a trait. -/
def withTrait (bs : List Bound) : Reader (List Bound) :=
  if bs.any fun
    | .trait .. | .constant _ => true
    | _ => false
  then pure bs else fail

/-! ### Types -/

/-- An optional calling convention. -/
def convention : Reader Unit := when (atWord "extern") do
  word "extern"
  when atString literal

/-- An input of a function type after its attributes. The first one may be the receiver, of which
the type is not read as one where it is mutable. -/
def functionInput (f : Forms) (first : Bool) : Reader Unit := do
  let atMutSelf (ts : List Tok) := first && atWord "mut" ts && atWord "self" (skipOne ts)
  let atNamed (ts : List Tok) :=
    (atIdent ts || atWord "_" ts || first && atWord "self" ts) && atColon (skipOne ts)
  if ← asks atMutSelf then verbatim do
    word "mut"
    if ← asks atNamed then
      word "self"
      op ":"
      skip (f.ty true)
    else word "self"
  else skip (verbatimIf id (do
    let receiver ← asks fun ts => atWord "self" ts && atNamed ts
    when atNamed (do
      skip anyIdent
      op ":")
    if !receiver && (← asks atMutSelf) then
      word "mut"
      word "self"
      pure true
    else
      skip (f.ty true)
      pure false))

/-- Whether the rest of the inputs of a function type is left open. -/
def atOpenInputs (ts : List Tok) : Bool :=
  atOp "..." ts || (atIdent ts || atWord "_" ts) && atOp ":" (skipOne ts) &&
    atOp "..." (skipOne (skipOne ts))

/-- The inputs of a function type; the number bounds them. -/
def functionInputs (f : Forms) (first : Bool) : Nat → Reader Unit
  | 0 => ensure List.isEmpty
  | n + 1 => do
    if ← asks List.isEmpty then pure ()
    else
      skip (outerAttributes f)
      if ← asks atOpenInputs then
        when atAnyIdent (do
          skip anyIdent
          op ":")
        op "..."
        skip (tryOp ",")
      else
        functionInput f first
        when (fun ts => !ts.isEmpty) (do
          op ","
          functionInputs f false n)

/-- A function type after its parameters. -/
def functionType (f : Forms) : Reader Unit := do
  skip (tryWord "unsafe")
  convention
  word "fn"
  group .paren (do functionInputs f true (← ahead).length)
  skip (result f false)

/-- More bounds of a trait object without keyword, behind its first one. -/
def moreBounds (f : Forms) (first : Bound) : Reader Ty := do
  if ← tryOp "+" then
    if ← asks (atBound false) then
      let rest ← bounds f true false false
      pure (.object (first :: rest))
    else pure (.object [first])
  else pure (.object [first])

/-- A trait object whose first bound is in parentheses; each plus sign needs a bound. -/
def parenBounds (f : Forms) (first : Bound) : Reader Ty := do
  if ← tryOp "+" then
    let rest ← chained (fun _ => true) (f.bound false false)
    pure (.object (first :: rest))
  else pure (.object [first])

/-- A type that starts with a path. -/
def pathType (f : Forms) (plus bound : Bool) : Reader Ty := do
  if ← asks (atOp "<") then
    let (last, toks) ← captured (qualifiedPath f false)
    pure (.qualified last toks)
  else
    let (p, toks) ← captured (path f false)
    let ts ← ahead
    if atOp "!" ts && !atOp "!=" ts && p.isPlain then
      let ((), call) ← captured (do
        op "!"
        skip anyGroup)
      pure (.other (toks ++ call))
    else if plus && (bound || atOp "+" ts) then moreBounds f (.trait false p)
    else if bound then pure (.object [.trait false p])
    else pure (.path p)

/-- What stands in parentheses at the start of a type. -/
inductive InParens where
  | tuple (items : List Ty)
  | lifetimes (ty : Ty)
  | relaxed (bound : Bound)
  /-- A single type; the bound is what it is as the first bound of a trait object. -/
  | single (ty : Ty) (bound : Option Bound)

/-- What a type in parentheses is as the first bound of a trait object: a path, or one bound without
keyword and without a plus sign. -/
def firstBound? (ty : Ty) (toks : List Tok) : Option Bound :=
  match ty with
  | .path p => some (.trait false p)
  | .object [b] =>
    match toks.getLast? with
    | some (.punct '+' _ _) => none
    | _ => if atWord "dyn" toks then none else some b
  | _ => none

/-- The inside of parentheses at the start of a type. -/
def inParens (f : Forms) : Reader InParens := do
  let ts ← ahead
  if ts.isEmpty then pure (.tuple [])
  else if atLifetime ts then .lifetimes <$> f.ty true
  else if atOp "?" ts then .relaxed <$> f.bound false false
  else
    let (first, toks) ← captured (f.ty true)
    if ← tryOp "," then
      let rest ← commaList (f.ty true)
      pure (.tuple (first :: rest))
    else pure (.single first (firstBound? first toks))

/-- A type that starts with parentheses. -/
def parenType (f : Forms) (plus : Bool) : Reader Ty := do
  match ← group .paren (inParens f) with
  | .tuple items => pure (.tuple items)
  | .lifetimes ty => pure (.paren ty)
  | .relaxed b => parenBounds f b
  | .single ty b =>
    match b with
    | some b => if plus && (← asks (atOp "+")) then parenBounds f b else pure (.paren ty)
    | none => pure (.paren ty)

/-- A type in one layer; the flag allows bounds joined by a plus sign. -/
def tyIn (f : Forms) (plus : Bool) : Reader Ty := do
  let (bound, bindToks) ← captured (binder f)
  let ts ← ahead
  if bound && !(atIdent ts ||
      atWords ["fn", "unsafe", "extern", "super", "self", "Self", "crate"] ts) then
    fail
  else if atGroup .paren ts then parenType f plus
  else if atWords ["fn", "unsafe", "extern"] ts then
    let ((), toks) ← captured (functionType f)
    pure (.other (bindToks ++ toks))
  else if atPathWord ts || atOp "::" ts || atOp "<" ts then pathType f plus bound
  else if atWord "dyn" ts then
    let ((bs, star), toks) ← captured (verbatimIf Prod.snd (do
      word "dyn"
      let star ← tryOp "*"
      let bs ← withTrait (← bounds f plus false false)
      pure (bs, star)))
    pure (if star then .other toks else .object bs)
  else if atGroup .bracket ts then
    group .bracket (do
      let item ← f.ty true
      if ← tryOp ";" then
        let (_, length) ← captured (f.expr true)
        pure (.array item length)
      else pure (.slice item))
  else if atOp "*" ts then
    let ((), toks) ← captured (do
      op "*"
      if ← tryWord "const" then pure () else word "mut"
      skip (f.ty false))
    pure (.other toks)
  else if atOp "&" ts then
    op "&"
    let lifetime ← optional atLifetime lifetime
    let mutable ← tryWord "mut"
    let target ← f.ty false
    pure (.reference lifetime mutable target)
  else if atOp "!" ts then
    op "!"
    pure .never
  else if atWord "impl" ts then
    word "impl"
    let bs ← withTrait (← bounds f plus true true)
    pure (.anonymous bs)
  else if atWord "_" ts then
    let t ← token
    pure (.other [t])
  else if atLifetime ts then
    let bs ← withTrait (← bounds f plus false false)
    pure (.object bs)
  else fail

/-! ### Conditions -/

/-- Whether the conditions of a declaration end. -/
def atConditionsEnd (ts : List Tok) : Bool :=
  ts.isEmpty || atGroup .brace ts || atOp "," ts || atOp ";" ts || atColon ts || atOp "=" ts

/-- One condition on a parameter. -/
def condition (f : Forms) : Reader Unit := do
  let ts ← ahead
  if atLifetime ts && atOp ":" (skipOne ts) then
    skip lifetime
    op ":"
    skip (separatedWhile (fun ts => atConditionsEnd ts || atOp ":" ts) "+" lifetime)
  else
    skip (binder f)
    skip (f.ty true)
    op ":"
    skip (separatedWhile atConditionsEnd "+" (f.bound false true))

/-- The conditions after `where`, with their tokens, if there are any. The word alone is not
written. -/
def conditions (f : Forms) : Reader (Option (List Tok)) := do
  if ← asks (atWord "where") then
    let (_, toks) ← captured (writtenIf (fun list => !list.isEmpty) (do
      word "where"
      ensure fun ts => !atParameters ts
      separatedWhile atConditionsEnd "," (condition f)))
    pure (some toks)
  else pure none

end Beans.Syntax.Reader
