import Beans.Syntax.Grammar.Expressions
import Beans.Syntax.Lexer

/-!
# The grammar of items

Readers of items, and with them the readers of whole texts: files, declarations, types, paths,
visibilities and identifiers.

## Main definitions

* `forms` — the layers of the grammar.
* `readSource?`, `readDeclaration?`, `readTy?`, `readPath?`, `readVisibility?` — readers of texts;
  nothing is given for a text that is not of the form.
-/

set_option autoImplicit false

namespace Beans.Syntax

namespace Reader

/-! ### Declarations of types -/

/-- A visibility with its first line. -/
def visibility : Reader (Visibility × Nat) := do
  let line ← nextLine
  if ← asks (atWord "pub") then
    let (restricted, toks) ← captured (do
      word "pub"
      match ← ahead with
      | .group .paren items _ :: _ =>
        if atWords ["crate", "self", "super"] items && items.length == 1 then
          skip (group .paren anyIdent)
          pure true
        else if atWord "in" items then
          group .paren (do
            word "in"
            skip plainPath)
          pure true
        else pure false
      | _ => pure false)
    pure (if restricted then .restricted toks else .pub, line)
  else pure (.inherited, line)

/-- The fields in a group, with the line of its closing delimiter. -/
def fieldsIn (d : Delimiter) (field : Reader Field) : Reader (List Field × Nat) := do
  let last := ((← ahead).head?.map fun t => t.lines.last).getD 0
  let list ← group d (commaList field)
  pure (list, last)

/-- The type of a field without a name, which may be a declaration of further fields. -/
def blankFieldType (f : Forms) : Reader Ty := do
  if ← asks fun ts => atWord "struct" ts || atWord "union" ts && atGroup .brace (skipOne ts) then
    let ((), toks) ← captured (verbatim (do
      skip anyIdent
      skip (fieldsIn .brace f.field)))
    pure (.other toks)
  else f.ty true

/-- A named field in one layer. -/
def fieldIn (f : Forms) : Reader Field := do
  let line ← nextLine
  let attributes ← outerAttributes f
  let (visibility, visibilityLine) ← visibility
  let nameLine ← nextLine
  let name ← identOrBlank
  op ":"
  let tyLine ← nextLine
  let ty ← if name = "_" then blankFieldType f else f.ty true
  pure { attributes, visibility, visibilityLine, name := some name, nameLine, ty, tyLine, line }

/-- A field with a place only. -/
def placedField (f : Forms) : Reader Field := do
  let line ← nextLine
  let attributes ← outerAttributes f
  let (visibility, visibilityLine) ← visibility
  let tyLine ← nextLine
  let ty ← f.ty true
  pure
    { attributes, visibility, visibilityLine, name := none, nameLine := tyLine, ty, tyLine, line }

/-- What follows the generics of a struct: its fields, the line that it ends on and its
conditions. -/
def structRest (f : Forms) : Reader (Fields × Nat × Option (List Tok)) := do
  let before ← conditions f
  let ts ← ahead
  if before.isNone && atGroup .paren ts then
    let (list, _) ← fieldsIn .paren (placedField f)
    let after ← conditions f
    let line ← nextLine
    op ";"
    pure (.unnamed list, line, after)
  else if atGroup .brace ts then
    let (list, closing) ← fieldsIn .brace f.field
    pure (.named list closing, closing, before)
  else
    let line ← nextLine
    op ";"
    pure (.unit, line, before)

/-- A variant of an enumeration. Its visibility is not written. -/
def variant (f : Forms) : Reader Unit := do
  skip (outerAttributes f)
  skip (silently visibility)
  skip ident
  let ts ← ahead
  if atGroup .brace ts then skip (fieldsIn .brace f.field)
  else if atGroup .paren ts then skip (fieldsIn .paren (placedField f))
  if ← tryOp "=" then skip (f.expr true)

/-- A declaration of a type from its keyword on. -/
def declarationRest (f : Forms) (attributes : List Attribute) (visibility : Visibility)
    (line : Nat) : Reader Declaration := do
  let kind ← anyIdent
  let nameLine ← nextLine
  let name ← ident
  let generics ← genericParams f
  if kind = "struct" then
    let (fields, last, conditions) ← structRest f
    pure { attributes, visibility, name, nameLine, generics := { generics with conditions },
           data := .struct fields, lines := ⟨line, last⟩ }
  else
    let conditions ← conditions f
    let last := ((← ahead).head?.map fun t => t.lines.last).getD 0
    if kind = "enum" then
      skip (group .brace (commaList (variant f)))
      pure { attributes, visibility, name, nameLine, generics := { generics with conditions },
             data := .enum, lines := ⟨line, last⟩ }
    else if kind = "union" then
      skip (fieldsIn .brace f.field)
      pure { attributes, visibility, name, nameLine, generics := { generics with conditions },
             data := .union, lines := ⟨line, last⟩ }
    else fail

/-- A declaration of a type with its attributes. -/
def declaration (f : Forms) : Reader Declaration := do
  let line ← nextLine
  let attributes ← outerAttributes f
  let (visibility, _) ← visibility
  declarationRest f attributes visibility line

/-! ### Imports -/

/-- The entries of a group of imports; the flag allows an entry to start at the root. The second
result tells whether one did. -/
def useEntries (f : Forms) (root : Bool) : Reader (List UseTree × Bool) := do
  let list ← commaList (do
    let rooted ← if root then tryOp "::" else pure false
    let tree ← f.useTree (root && !rooted)
    pure (if rooted then none else tree))
  pure (list.filterMap id, list.any Option.isNone)

/-- The tree of an import in one layer. A tree with an entry that starts at the root is read but not
kept. -/
def useTreeIn (f : Forms) (root : Bool) : Reader (Option UseTree) := do
  let ts ← ahead
  if atIdent ts || atWords ["self", "super", "crate", "try"] ts then
    let name ← anyIdent
    if ← tryOp "::" then
      match ← f.useTree false with
      | some rest => pure (some (.path name rest))
      | none => fail
    else if ← tryWord "as" then
      let bound ← identOrBlank
      pure (some (.rename name bound))
    else pure (some (.name name))
  else if ← tryOp "*" then pure (some .glob)
  else if atGroup .brace ts then
    let (trees, rooted) ← group .brace (useEntries f root)
    pure (if rooted then none else some (.group trees))
  else fail

/-- An import after its visibility. -/
def useItem (f : Forms) : Reader Item := do
  word "use"
  let rooted ← tryOp "::"
  let tree ← f.useTree (!rooted)
  let line ← nextLine
  op ";"
  pure (match tree with
    | some tree => .use tree line
    | none => .other)

/-! ### Functions -/

/-- The receiver of a method. -/
def receiver (f : Forms) : Reader Unit := do
  let byRef ← tryOp "&"
  if byRef then skip (optional atLifetime lifetime)
  skip (tryWord "mut")
  word "self"
  if !byRef then
    if ← tryOp ":" then skip (f.ty true)

/-- A parameter after its attributes; tells whether it leaves the rest open. A receiver has to be
the first one. A type with arguments alone stands for a parameter without a name. -/
def parameter (f : Forms) (first : Bool) : Reader Bool := do
  if ← tryOp "..." then pure true
  else
    match ← attempt (receiver f) with
    | some () => if first then pure false else fail
    | none =>
      let ts ← ahead
      if atIdent ts && atOp "<" (skipOne ts) then
        let line ← nextLine
        write [.ident "_" ⟨line, line⟩, .punct ':' false ⟨line, line⟩]
        skip (f.ty true)
        pure false
      else
        skip (f.pattern false)
        op ":"
        if ← tryOp "..." then pure true
        else
          skip (f.ty true)
          pure false

/-- The parameters of a function; the number bounds them. -/
def parameters (f : Forms) (first : Bool) : Nat → Reader Unit
  | 0 => ensure List.isEmpty
  | n + 1 => do
    if ← asks List.isEmpty then pure ()
    else
      skip (outerAttributes f)
      if ← parameter f first then skip (tryOp ",")
      else when (fun ts => !ts.isEmpty) (do
        op ","
        parameters f false n)

/-- A function up to its body. The flag allows it to be marked as safe; the result tells whether it
is. -/
def signature (f : Forms) (mayBeSafe : Bool) : Reader Bool := do
  skip (tryWord "const")
  skip (tryWord "async")
  let safe ← if ← tryWord "unsafe" then pure false
    else if mayBeSafe then tryWord "safe" else pure false
  convention
  word "fn"
  skip ident
  skip (genericParams f)
  group .paren (do parameters f true (← ahead).length)
  skip (result f true)
  skip (conditions f)
  pure safe

/-- Whether a function starts; the flag allows it to be marked as safe. -/
def atSignature (mayBeSafe : Bool) (ts : List Tok) : Bool :=
  let ts := if atWord "const" ts then skipOne ts else ts
  let ts := if atWord "async" ts then skipOne ts else ts
  let ts := if atWord "unsafe" ts || mayBeSafe && atWord "safe" ts then skipOne ts else ts
  let ts := if atWord "extern" ts then
      let ts := skipOne ts
      if atString ts then skipOne ts else ts
    else ts
  atWord "fn" ts

/-! ### Items and members

Some items are read but not understood: they are written down as they stand. Their readers give
whether this is so. -/

/-- A function with its body or a semicolon; tells whether it lacks a body. -/
def function (f : Forms) : Reader Bool := do
  skip (signature f false)
  if ← tryOp ";" then pure true
  else
    bodyBlock f
    pure false

/-- A constant. The results tell whether it has parameters or conditions, and whether it has a
value. -/
def constant (f : Forms) : Reader (Bool × Bool) := do
  word "const"
  skip identOrBlank
  let generics ← genericParams f
  op ":"
  skip (f.ty true)
  let valued ← tryOp "="
  if valued then skip (f.expr true)
  let conditions ← conditions f
  op ";"
  pure (generics.line.isSome || conditions.isSome, valued)

/-- A static variable; tells whether it lacks its type or its value. -/
def staticItem (f : Forms) : Reader Bool := do
  word "static"
  skip (tryWord "mut")
  skip ident
  let typed ← tryOp ":"
  if typed then skip (f.ty true)
  let valued ← if typed then tryOp "=" else do
    op "="
    pure true
  if valued then skip (f.expr true)
  op ";"
  pure !(typed && valued)

/-- Where the conditions of a type under another name may stand. -/
inductive ConditionsPlace where
  | beforeType
  | afterType
  | either
deriving DecidableEq

/-- A type under another name. The results tell whether it has bounds, and whether it is defined. -/
def typeName (f : Forms) (place : ConditionsPlace) : Reader (Bool × Bool) := do
  word "type"
  skip ident
  skip (genericParams f)
  let bounded ← asks (atOp ":")
  if bounded then
    skip (writtenIf (fun list => !list.isEmpty) (do
      op ":"
      separated (fun ts => atWord "where" ts || atOp "=" ts || atOp ";" ts) "+"
        (f.bound false true)))
  let before ← if place = .afterType then pure none else conditions f
  let defined ← tryOp "="
  if defined then skip (f.ty true)
  if place ≠ .beforeType && before.isNone then skip (conditions f)
  op ";"
  pure (bounded, defined)

/-- Whether a macro call may start an item or a member. -/
def atMacroPath (ts : List Tok) : Bool :=
  atIdent ts || atWords ["self", "super", "crate"] ts || atOp "::" ts

/-- A macro call as an item or member; the flag allows it to declare a name. -/
def macroItem (named : Bool) : Reader Unit := do
  ensure atMacroPath
  skip plainPath
  op "!"
  if named then when (fun ts => atIdent ts || atWord "try" ts) (skip anyIdent)
  if (← anyGroup) != .brace then op ";"

/-- A member of a trait. -/
def traitMember (f : Forms) : Reader Unit := skip (verbatimIf id (do
  skip (outerAttributes f)
  let (vis, _) ← visibility
  let marked := (← tryWord "default") || !vis.isInherited
  let ts ← ahead
  if atSignature false ts then
    skip (function f)
    pure marked
  else if atWord "const" ts then
    let (conditional, _) ← constant f
    pure (marked || conditional)
  else if atWord "type" ts then
    skip (typeName f .afterType)
    pure marked
  else
    if marked then fail
    macroItem false
    pure false))

/-- A member of an implementation. -/
def implMember (f : Forms) : Reader Unit := skip (verbatimIf id (do
  skip (outerAttributes f)
  let (vis, _) ← visibility
  let isDefault ← asks fun ts => atWord "default" ts && !atOp "!" (skipOne ts)
  if isDefault then word "default"
  let ts ← ahead
  if atSignature false ts then function f
  else if atWord "const" ts then
    let (conditional, valued) ← constant f
    pure (conditional || !valued)
  else if atWord "type" ts then
    let (bounded, defined) ← typeName f .afterType
    pure (bounded || !defined)
  else
    if isDefault || !vis.isInherited then fail
    macroItem false
    pure false))

/-- A member of a block of foreign items. -/
def foreignMember (f : Forms) : Reader Unit := skip (verbatimIf id (do
  skip (outerAttributes f)
  let (vis, _) ← visibility
  let ts ← ahead
  let marked := atWords ["unsafe", "safe"] ts && atWord "static" (skipOne ts)
  if atSignature true ts then
    let safe ← signature f true
    if ← tryOp ";" then pure safe
    else
      bodyBlock f
      pure true
  else if atWord "static" ts || marked then
    if marked then skip anyIdent
    word "static"
    skip (tryWord "mut")
    skip ident
    op ":"
    skip (f.ty true)
    let valued ← tryOp "="
    if valued then skip (f.expr true)
    op ";"
    pure (marked || valued)
  else if atWord "type" ts then
    let (bounded, defined) ← typeName f .either
    pure (bounded || defined)
  else
    if !vis.isInherited then fail
    macroItem false
    pure false))

/-- Members in braces, after the attributes of what they belong to. -/
def members (f : Forms) (member : Reader Unit) : Reader Unit := group .brace (do
  innerAttributes f
  skip (manyUntil List.isEmpty member))

/-- The members of a trait after its generics. -/
def traitRest (f : Forms) : Reader Unit := do
  when (atOp ":") (skip (writtenIf (fun list => !list.isEmpty) (do
    op ":"
    separated (fun ts => atWord "where" ts || atGroup .brace ts) "+" (f.bound false true))))
  skip (conditions f)
  members f (traitMember f)

/-- A trait, or bounds under the name of one. -/
def traitItem (f : Forms) : Reader Unit := do
  let marked := (← tryWord "unsafe") || (← asks (atWord "auto"))
  skip (tryWord "auto")
  word "trait"
  skip ident
  skip (genericParams f)
  if !marked && (← asks (atOp "=")) then
    op "="
    skip (separated (fun ts => atWord "where" ts || atOp ";" ts) "+" (f.bound false false))
    skip (conditions f)
    op ";"
  else traitRest f

/-- The mark of a constant trait; tells whether it was there. -/
def constMark : Reader Bool := do
  let found ← asks fun ts => atWord "const" ts || atOp "?" ts && atWord "const" (skipOne ts)
  if found then
    skip (tryOp "?")
    word "const"
  pure found

/-- The trait and the type of an implementation; the number is the line of its keyword. One of
something that is no path of a trait does not count. -/
def implSubject (f : Forms) (line : Nat) : Reader Item := do
  let negative ← asks fun ts => atOp "!" ts && !atGroup .brace (ts.drop 1)
  when (fun _ => negative) (op "!")
  let first ← f.ty true
  if ← tryWord "for" then
    let ty ← f.ty true
    pure (match first with
      | .path p => .impl line (some p) ty
      | _ => .other)
  else if negative then fail
  else pure (.impl line none first)

/-- An implementation; tells whether it is not understood. One that is marked as constant or has a
visibility is none that counts. -/
def implItem (f : Forms) (visible : Bool) : Reader (Item × Bool) := do
  skip (tryWord "default")
  skip (tryWord "unsafe")
  let line ← nextLine
  word "impl"
  when atParameters (skip (genericParams f))
  let isConst ← constMark
  let item ← implSubject f line
  skip (conditions f)
  members f (implMember f)
  let unkept := match item with
    | .impl .. => visible || isConst
    | _ => true
  pure (if unkept then .other else item, unkept)

/-- An import of a whole library. -/
def externCrate : Reader Unit := do
  word "extern"
  word "crate"
  if ← tryWord "self" then pure () else skip ident
  if ← tryWord "as" then skip identOrBlank
  op ";"

/-- A block of foreign items. -/
def foreignBlock (f : Forms) : Reader Unit := do
  skip (tryWord "unsafe")
  convention
  members f (foreignMember f)

/-- A module. -/
def moduleItem (f : Forms) : Reader Unit := do
  skip (tryWord "unsafe")
  word "mod"
  if ← tryWord "try" then pure () else skip ident
  if ← tryOp ";" then pure ()
  else members f (skip f.item)

/-- A macro with parameters of its own. -/
def macroDefinition : Reader Unit := do
  word "macro"
  skip ident
  when (atGroup .paren) (skip anyGroup)
  ensure (atGroup .brace)
  skip anyGroup

/-- The rest of an item after its attributes and its visibility; tells whether it is not
understood. -/
def itemRest (f : Forms) (attributes : List Attribute) (vis : Visibility) (line : Nat) :
    Reader (Item × Bool) := do
  let ts ← ahead
  let next := skipOne ts
  if atSignature false ts then (Item.other, ·) <$> function f
  else if atWord "extern" ts && atWord "crate" next then
    externCrate
    pure (.other, false)
  else if atWord "extern" ts || atWord "unsafe" ts && atWord "extern" next then
    if !vis.isInherited then fail
    foreignBlock f
    pure (.other, false)
  else if atWord "use" ts then
    let item ← useItem f
    pure (item, match item with
      | .use .. => false
      | _ => true)
  else if atWord "static" ts then (Item.other, ·) <$> staticItem f
  else if atWord "const" ts then
    let (conditional, valued) ← constant f
    pure (.other, conditional || !valued)
  else if atWord "mod" ts || atWord "unsafe" ts && atWord "mod" next then
    moduleItem f
    pure (.other, false)
  else if atWord "type" ts then
    let (bounded, defined) ← typeName f .beforeType
    pure (.other, bounded || !defined)
  else if atWords ["struct", "enum"] ts || atWord "union" ts && atIdent next then
    let d ← declarationRest f attributes vis line
    pure (.declaration d, false)
  else if atWord "trait" ts || atWord "auto" ts && atWord "trait" next ||
      atWord "unsafe" ts && (atWord "trait" next ||
        atWord "auto" next && atWord "trait" (skipOne next)) then
    traitItem f
    pure (.other, false)
  else if atWord "impl" ts || atWord "unsafe" ts || atWord "default" ts && !atOp "!" next then
    implItem f !vis.isInherited
  else if atWord "macro" ts then
    macroDefinition
    pure (.other, true)
  else
    if !vis.isInherited then fail
    macroItem true
    pure (.other, false)

/-- An item in one layer. -/
def itemIn (f : Forms) : Reader Item := Prod.fst <$> verbatimIf Prod.snd (do
  let line ← nextLine
  let attributes ← outerAttributes f
  let (vis, _) ← visibility
  itemRest f attributes vis line)

end Reader

/-! ### Layers -/

/-- The layer above another one. -/
def Forms.next (f : Forms) : Forms where
  ty := Reader.tyIn f
  bound := Reader.boundIn f
  expr := Reader.exprIn f
  operand := Reader.operandIn f
  operators := Reader.operatorsIn f
  leadingExpr := Reader.leadingExprIn f
  pattern := Reader.patternIn f
  statements := Reader.statementsIn f
  field := Reader.fieldIn f
  item := Reader.itemIn f
  useTree := Reader.useTreeIn f

/-- A number of layers. -/
def forms (layers : Nat) : Forms := Nat.repeat Forms.next layers Forms.empty

/-- The top layer of the grammar for some tokens: high enough for whatever nests in them. -/
def formsFor (ts : List Tok) : Forms := forms (4 * toksSize ts + 16)

/-- Reads all of a token list by a reader that takes the top layer of the grammar. -/
def readAll {α : Type} (r : Forms → Reader α) (ts : List Tok) : Option α :=
  (Reader.whole (r (formsFor ts)) ts).map Prod.fst

/-- Reads all of a text. -/
def readText {α : Type} (r : Forms → Reader α) (text : String) : Option α :=
  (readToks text).bind (readAll r)

/-- A type. -/
def readTy? (text : String) : Option Ty := readText (fun f => f.ty true) text

/-- A path in the form that it has in a type. -/
def readPath? (text : String) : Option Path := readText (fun f => Reader.path f false) text

/-- A visibility. -/
def readVisibility? (text : String) : Option Visibility :=
  readText (fun _ => Prod.fst <$> Reader.visibility) text

/-- Whether a text is an identifier. -/
def isIdentifier (text : String) : Bool := (readText (fun _ => Reader.ident) text).isSome

/-- A declaration of a type. -/
def readDeclaration? (text : String) : Option Declaration := readText Reader.declaration text

/-- The text after its leading white space and plain comments; the number bounds them. -/
def afterGaps : Nat → List Char → List Char
  | 0, cs => cs
  | n + 1, cs => match takeGap cs with
    | some (.skip _ rest) => afterGaps n rest
    | _ => cs

/-- A text without a byte order mark at its start, and with its first line blank if that names an
interpreter. -/
def withoutPreamble (cs : List Char) : List Char :=
  let cs := if cs.head? = some (Char.ofNat 0xFEFF) then cs.drop 1 else cs
  match cs with
  | '#' :: '!' :: rest =>
    if (afterGaps rest.length rest).head? = some '[' then cs else rest.dropWhile (· != '\n')
  | cs => cs

/-- The items of a file. -/
def readSource? (text : String) : Option SourceFile :=
  readText (fun f => do
    Reader.innerAttributes f
    Reader.manyUntil List.isEmpty f.item) (String.ofList (withoutPreamble text.toList))

end Beans.Syntax
