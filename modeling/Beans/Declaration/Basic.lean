import Beans.Declaration.Entries
import Beans.Declaration.Options
import Beans.Text.Lines
import Beans.Text.Similarity

/-!
# Declarations of beans

A bean is declared by a struct with named fields. Its options stand in one kind of attribute,
those of a property in another one on its field; computed properties are listed in a third.

## Main definitions

* `BeanDecl` — a declaration with its options, fields and properties.
* `BeanDecl.ofDeclaration` — reads a declaration, or gives all faults of its attributes.
* `findBean` — the first bean of a file.
-/

set_option autoImplicit false

namespace Beans

open Syntax

/-! ### Documentation -/

/-- The text of a documentation attribute. -/
def docText? (a : Attribute) : Option String :=
  if !a.isNamed "doc" then none
  else match a.content.args with
    | .value [.literal text _] => (stringValue? text).map (·.1)
    | _ => none

/-- The documentation in some attributes: their lines without the blanks around them. -/
def docComments (attributes : List Attribute) : Option String :=
  let text := Text.trim (Text.joinWith "\n" ((attributes.filterMap docText?).map Text.trim))
  if text.isEmpty then none else some text

/-- The first paragraph of the documentation as one line. -/
def docSummary (attributes : List Attribute) : Option String :=
  (docComments attributes).map fun docs =>
    let first := (Text.cutParagraphs docs.toList).head?.getD []
    Text.joinWith " " ((Text.feedLines (String.ofList first)).map Text.trim)

/-! ### Beans of a file -/

/-- The names whose derivation makes a struct a bean. -/
def beanDerives : List String := ["BeanDefinition", "Bean"]

/-- A path at the start of some tokens, or the fault of what is there instead. -/
def checkedPath (endLine : Nat) (ts : List Tok) : Checked (Path × List Tok) :=
  match (Reader.path (formsFor ts) false).front ts with
  | some r => .ok r
  | none => expectedIdent endLine (if atOp "::" ts then ts.drop 2 else ts)

/-- The tokens in the parentheses of an attribute and the line of their end, or the fault of an
attribute without. -/
def attributeToks (a : Attribute) : Checked (List Tok × Nat) :=
  let name := match a.content.path with
    | .mk rooted segments =>
      (if rooted then "::" else "") ++ Text.joinWith "::" (segments.map Segment.name)
  match a.content.args with
  | .list _ toks => .ok (toks, a.content.lines.last)
  | .word =>
    faultAt a.content.lines.first
      (.unreadable s!"expected attribute arguments in parentheses: #[{name}(...)]")
  | .value _ => faultAt a.content.lines.first (.unreadable s!"expected parentheses: #[{name}(...)]")

/-- The last names of the paths in an attribute of derivations. -/
def deriveNames (a : Attribute) : Checked (List String) := do
  let (toks, endLine) ← attributeToks a
  let paths ← checkedList endLine (checkedPath endLine) (toks.length + 1) toks
  pure (paths.filterMap Path.lastName?)

/-- Whether some attributes derive a bean. -/
def isBean (attributes : List Attribute) : Bool :=
  (attributes.filter fun a => a.isNamed "derive").any fun a =>
    match deriveNames a with
    | .ok names => names.any beanDerives.contains
    | .error _ => false

/-- The first struct of a file that is a bean. -/
def findBean (file : SourceFile) : Option Declaration :=
  file.findSome? fun
    | .declaration d => match d.data with
      | .struct _ => if isBean d.attributes then some d else none
      | _ => none
    | _ => none

/-! ### Options -/

/-- The options of a bean. -/
structure BeanOptions where
  /-- The style, if one is given. -/
  style : Option BeanStyle := none
  /-- The bean is immutable. -/
  immutable : Bool := false
  /-- The field that holds the parent bean. -/
  parent : Option NameAt := none
  /-- The visibility of the constructor, if one is given. -/
  constructorScope : Option Scope := none
  /-- The visibility of the meta-bean. -/
  metaScope : Scope := .smart
  /-- The visibility of the builder. -/
  builderScope : Scope := .smart
  /-- The name of the factory function. -/
  factory : Option NameAt := none
  /-- The hint about the hierarchy. -/
  hierarchy : Option String := none
  /-- The hash code is kept. -/
  cacheHash : Bool := false
  /-- Whether copying is generated. -/
  clone : CloneStyle := .smart
  /-- The annotations. -/
  tags : List Tag := []

/-- The options of a property. -/
structure PropertyOptions where
  /-- Another name. -/
  otherName : Option String := none
  /-- The style of the getter. -/
  getStyle : Option String := none
  /-- The style of the setter. -/
  setStyle : Option String := none
  /-- The type that is shown, if it differs from that of the field. -/
  ty : Option Ty := none
  /-- The part in equality and hashing. -/
  equals : PartStyle := .smart
  /-- The part in the text form. -/
  toText : PartStyle := .smart
  /-- The check of values. -/
  validation : Option Validation := none
  /-- The type of the builder's field. -/
  builderType : Option Ty := none
  /-- The annotations. -/
  tags : List Tag := []

/-- A text as it stands. -/
def Entry.plain (e : Entry) : Checked String := e.text .ok

/-- A tag. -/
def Entry.tag (e : Entry) : Checked Tag :=
  e.text fun value => match Tag.ofText? value with
    | some tag => .ok tag
    | none => .error (.malformedTag value)

/-- The entries of a bean's attribute. -/
def beanEntries : List String :=
  ["style", "immutable", "parent", "constructor_scope", "meta_scope", "builder_scope", "factory",
    "hierarchy", "cache_hash_code", "clone", "tag"]

/-- The options with those of one entry. -/
def BeanOptions.set (o : BeanOptions) (e : Entry) : Checked BeanOptions :=
  match e.name with
  | "style" => return { o with style := some (← e.word BeanStyle.ofWord?) }
  | "immutable" => return { o with immutable := ← e.flag }
  | "parent" => return { o with parent := some (← e.ident) }
  | "constructor_scope" => return { o with constructorScope := some (← e.word Scope.ofWord?) }
  | "meta_scope" => return { o with metaScope := ← e.word Scope.ofWord? }
  | "builder_scope" => return { o with builderScope := ← e.word Scope.ofWord? }
  | "factory" => return { o with factory := some (← e.ident) }
  | "hierarchy" => return { o with hierarchy := some (← e.plain) }
  | "cache_hash_code" => return { o with cacheHash := ← e.flag }
  | "clone" => return { o with clone := ← e.word CloneStyle.ofWord? }
  | "tag" => return { o with tags := o.tags ++ [← e.tag] }
  | _ => return o

/-- The entries of a property's attribute. -/
def propertyEntries : List String :=
  ["alias", "get", "set", "ty", "equals_hash_code", "to_string", "validate", "builder_type", "tag"]

/-- The options with those of one entry. -/
def PropertyOptions.set (o : PropertyOptions) (e : Entry) : Checked PropertyOptions :=
  match e.name with
  | "alias" => return { o with otherName := some (← e.plain) }
  | "get" => return { o with getStyle := some (← e.plain) }
  | "set" => return { o with setStyle := some (← e.plain) }
  | "ty" => return { o with ty := some (← e.word readTy?) }
  | "equals_hash_code" => return { o with equals := ← e.word PartStyle.ofWord? }
  | "to_string" => return { o with toText := ← e.word PartStyle.ofWord? }
  | "validate" => return { o with validation := some (← e.word Validation.ofWord?) }
  | "builder_type" => return { o with builderType := some (← e.word readTy?) }
  | "tag" => return { o with tags := o.tags ++ [← e.tag] }
  | _ => return o

/-- Options on the way: those so far, the entries that were seen, and the faults. -/
structure OptionsSoFar (α : Type) where
  /-- The options. -/
  options : α
  /-- The names of the entries that may stand once and did. -/
  seen : List String := []
  /-- The number of tags. -/
  tags : Nat := 0
  /-- The faults, in order. -/
  faults : List FaultAt := []

/-- Names in alphabetical order. -/
def alphabetical (names : List String) : List String := names.mergeSort fun a b => decide (a ≤ b)

/-- The names to list for an unknown entry: all if they are few. -/
def listedEntries (known : List String) : List String :=
  if known.length < 10 then alphabetical known else []

/-- Takes one entry into account. -/
def OptionsSoFar.take {α : Type} (known : List String) (set : α → Entry → Checked α)
    (s : OptionsSoFar α) : ListEntry → OptionsSoFar α
  | .literal line => { s with faults := s.faults ++ [⟨line, .unexpectedForm "literal", none⟩] }
  | .named e =>
    if !known.contains e.name then
      let hint := Text.closest e.name (alphabetical known)
      { s with
        faults := s.faults ++ [⟨e.line, .unknownEntry e.name hint (listedEntries known), none⟩] }
    else if e.name = "tag" then
      match inEntry s!"tag[{s.tags}]" (set s.options e) with
      | .ok options => { s with options, tags := s.tags + 1 }
      | .error faults => { s with faults := s.faults ++ faults }
    else if s.seen.contains e.name then
      { s with faults := s.faults ++ [⟨e.line, .duplicateEntry e.name, none⟩] }
    else
      match inEntry e.name (set s.options e) with
      | .ok options => { s with options, seen := e.name :: s.seen }
      | .error faults => { s with seen := e.name :: s.seen, faults := s.faults ++ faults }

/-- Takes the entries of some tokens into account. -/
def OptionsSoFar.takeAll {α : Type} (known : List String) (set : α → Entry → Checked α)
    (s : OptionsSoFar α) (toks : List Tok) : OptionsSoFar α :=
  match readEntries toks with
  | .ok entries => entries.foldl (OptionsSoFar.take known set) s
  | .error faults => { s with faults := s.faults ++ faults }

/-- The names of a path with double colons between them. -/
def Syntax.Path.names (p : Path) : String := Text.joinWith "::" (p.segments.map Segment.name)

/-- The fault of a declaration that is no struct with named fields. -/
def shapeFault? : DataKind → Option Fault
  | .enum => some (.unsupportedShape "enum" "struct with named fields")
  | .union => some (.unsupportedShape "union" "struct with named fields")
  | .struct .unit => some (.unsupportedShape "no fields" "named fields")
  | .struct (.unnamed [_]) => some (.unsupportedShape "one unnamed field" "named fields")
  | .struct (.unnamed _) => some (.unsupportedShape "unnamed fields" "named fields")
  | .struct (.named ..) => none

/-- The options of a bean in its attributes. -/
def BeanOptions.ofDeclaration (d : Declaration) : Checked BeanOptions :=
  let step (s : OptionsSoFar BeanOptions) (a : Attribute) : OptionsSoFar BeanOptions :=
    if a.content.path.names ≠ "bean" then s
    else match a.content.args with
      | .word => s
      | .list _ toks => s.takeAll beanEntries BeanOptions.set toks
      | .value _ =>
        { s with faults := s.faults ++ [⟨a.content.lines.first, .assignedAttribute "bean", none⟩] }
  let start : OptionsSoFar BeanOptions := { options := {} }
  let read := d.attributes.foldl step start
  let faults := read.faults ++ ((shapeFault? d.data).map fun fault => ⟨1, fault, none⟩).toList
  if faults.isEmpty then .ok read.options else .error faults

/-- The options of a property in one attribute. -/
def PropertyOptions.ofAttribute (a : Attribute) : Checked PropertyOptions :=
  match a.content.args with
  | .word => .ok {}
  | .list _ toks =>
    let start : OptionsSoFar PropertyOptions := { options := {} }
    let read := start.takeAll propertyEntries PropertyOptions.set toks
    if read.faults.isEmpty then .ok read.options else .error read.faults
  | .value toks =>
    let line := lineAt a.content.lines.first toks
    match (Reader.attributeValue (formsFor toks)).front toks with
    | some (shape, _) =>
      if shape.kind = "lit" then
        match EntryLiteral.ofToks toks with
        | .text _ => faultAt line (.unexpectedType "string")
        | .truth _ => faultAt line (.unexpectedType "bool")
        | .other type => faultAt line (.unexpectedType type)
      else faultAt line (.unexpectedType shape.kind)
    | none => faultAt line (.unreadable "expected an expression")

/-! ### Declarations -/

/-- A named field of a bean. -/
structure FieldDecl where
  /-- The name. -/
  name : NameAt
  /-- The type. -/
  ty : Ty
  /-- The first line of the type. -/
  tyLine : Nat
  /-- The field is a property. -/
  isProperty : Bool

/-- A field that is a property. -/
structure PropertyDecl where
  /-- The name of the field. -/
  name : NameAt
  /-- The type of the field. -/
  ty : Ty
  /-- The first line of the type. -/
  tyLine : Nat
  /-- The visibility of the field. -/
  visibility : Visibility
  /-- The line of the visibility. -/
  visibilityLine : Nat
  /-- The options. -/
  options : PropertyOptions
  /-- The first paragraph of the documentation. -/
  doc : Option String
  /-- The first line of the field. -/
  line : Nat

/-- A computed property. -/
structure DerivedDecl where
  /-- The name of the property and of the method that computes it. -/
  name : NameAt
  /-- The type. -/
  ty : Ty

/-- The declaration of a bean. -/
structure BeanDecl where
  /-- The name of the bean. -/
  name : NameAt
  /-- The visibility. -/
  visibility : Visibility
  /-- The generics. -/
  generics : Generics
  /-- The options. -/
  options : BeanOptions
  /-- All fields, in order. -/
  fields : List FieldDecl
  /-- The fields that are properties, in order. -/
  properties : List PropertyDecl
  /-- The computed properties, in order. -/
  derived : List DerivedDecl
  /-- The names of the traits that the bean derives or has by hand. -/
  derives : List String
  /-- The first paragraph of the documentation. -/
  doc : Option String

/-- The property that a field declares, if it does. -/
def PropertyDecl.ofField? (f : Field) : Checked (Option PropertyDecl) := do
  let step (found : Option PropertyOptions) (a : Attribute) : Checked (Option PropertyOptions) :=
    match found with
    | some _ => faultAt a.lines.first .repeatedProperty
    | none => return some (← PropertyOptions.ofAttribute a)
  let found ← (f.attributes.filter fun a => a.isNamed "property").foldlM step none
  return found.map fun options =>
    { name := ⟨f.name.getD "", f.nameLine⟩, ty := f.ty, tyLine := f.tyLine,
      visibility := f.visibility, visibilityLine := f.visibilityLine, options,
      doc := docSummary f.attributes, line := f.line }

/-- The words that a type may start with. -/
def typeStarts : String :=
  "one of: `for`, parentheses, `fn`, `unsafe`, `extern`, identifier, `::`, `<`, `dyn`, " ++
    "square brackets, `*`, `&`, `!`, `impl`, `_`, lifetime"

/-- A computed property: a name and a type. -/
def derivedEntry (endLine : Nat) (ts : List Tok) : Checked (DerivedDecl × List Tok) := do
  match ts with
  | .ident name l :: rest =>
    if keywords.contains name then expectedIdent endLine ts
    else if !atOp ":" rest then expectedMark endLine rest ":"
    else
      let rest := rest.drop 1
      match ((formsFor rest).ty true).front rest with
      | some (ty, rest) => pure (⟨⟨name, l.first⟩, ty⟩, rest)
      | none => expected endLine rest typeStarts
  | _ => expectedIdent endLine ts

/-- The computed properties of one attribute. -/
def derivedOf (a : Attribute) : Checked (List DerivedDecl) := do
  let (toks, endLine) ← attributeToks a
  checkedList endLine (derivedEntry endLine) (toks.length + 1) toks

/-- The fault list of a check. -/
def Checked.faults {α : Type} : Checked α → List FaultAt
  | .ok _ => []
  | .error faults => faults

/-- Reads the declaration of a bean. Faults of its options are given alone; else those of all
fields, of the computed properties and of the derivations come together. -/
def BeanDecl.ofDeclaration (d : Declaration) : Checked BeanDecl := do
  let options ← BeanOptions.ofDeclaration d
  let named := match d.data with
    | .struct (.named fields _) => fields
    | _ => []
  let read := named.map fun f => (f, PropertyDecl.ofField? f)
  let forwarded := d.attributes.filter fun a =>
    ["derive", "derived", "doc"].contains a.content.path.names
  let derived := (forwarded.filter fun a => a.isNamed "derived").mapM derivedOf
  let derives := (forwarded.filter fun a => a.isNamed "derive").mapM deriveNames
  let faults := read.flatMap (fun (_, p) => p.faults) ++ derived.faults ++ derives.faults
  if !faults.isEmpty then .error faults
  else
    let properties := read.filterMap fun (_, p) => match p with
      | .ok (some p) => some p
      | _ => none
    let fields := read.map fun (f, p) =>
      { name := ⟨f.name.getD "", f.nameLine⟩, ty := f.ty, tyLine := f.tyLine,
        isProperty := match p with
          | .ok (some _) => true
          | _ => false }
    return {
      name := ⟨d.name, d.nameLine⟩, visibility := d.visibility, generics := d.generics, options,
      fields, properties, derived := (← derived).flatten, derives := (← derives).flatten,
      doc := docSummary forwarded }

/-- Whether the bean has a trait already. -/
def BeanDecl.has (d : BeanDecl) (trait : String) : Bool := d.derives.contains trait

/-- The first field of a name. -/
def BeanDecl.field? (d : BeanDecl) (name : String) : Option FieldDecl :=
  d.fields.find? fun f => f.name.name == name

end Beans
