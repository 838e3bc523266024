import Beans.Model.Property

/-!
# Models of beans

Everything that code is generated from, with all choices of the declaration and of the settings
made.

## Main definitions

* `BeanModel` — the model.
* `BeanModel.resolve` — the model of a declaration, or the faults of its accessor styles.
-/

set_option autoImplicit false

namespace Beans

open Syntax

/-- A type parameter of a bean. -/
structure BeanParameter where
  /-- The name. -/
  name : String
  /-- The bounds as text. -/
  bounds : String
deriving DecidableEq, Repr

/-- The parent bean that a bean holds. -/
structure ParentField where
  /-- The name of the field. -/
  field : String
  /-- The type of the field. -/
  ty : Ty

/-- The type of a parent as text. -/
def ParentField.tyText (p : ParentField) : String := p.ty.render

/-- The traits of the standard library that are generated. -/
structure GeneratedTraits where
  /-- Copying. -/
  clone : Bool
  /-- Comparison for equality. -/
  partialEq : Bool
  /-- The mark of an equivalence relation. -/
  eq : Bool
  /-- Hashing. -/
  hash : Bool
  /-- The text form. -/
  display : Bool
deriving DecidableEq, Repr

/-- The model of a bean. -/
structure BeanModel where
  /-- The name. -/
  name : String
  /-- The visibility as text. -/
  visibility : String
  /-- The type parameters. -/
  params : List BeanParameter
  /-- The conditions on the type parameters as text, with their keyword. -/
  conditions : Option String
  /-- The style. -/
  style : BeanStyle
  /-- Whether it is immutable. -/
  immutable : Bool
  /-- The parent. -/
  parent : Option ParentField
  /-- The visibility of the constructor. -/
  constructorVisibility : String
  /-- The visibility of the meta-bean. -/
  metaVisibility : String
  /-- The visibility of the builder. -/
  builderVisibility : String
  /-- The name of the factory function. -/
  factory : Option String
  /-- Whether the hash code is kept. -/
  cacheHash : Bool
  /-- The generated traits of the standard library. -/
  generates : GeneratedTraits
  /-- The annotations. -/
  tags : List Tag
  /-- The stored properties. -/
  properties : List PropertyModel
  /-- The computed properties. -/
  computed : List ComputedModel
  /-- The names of all fields. -/
  fields : List String
  /-- The first paragraph of the documentation. -/
  doc : Option String

/-! ### Resolution -/

/-- The type parameters of some generics. -/
def beanParameters (g : Generics) : List BeanParameter :=
  g.params.filterMap fun (p, _) => match p with
    | .type name bounds => some ⟨name, Text.joinWith " + " (bounds.map Bound.render)⟩
    | .lifetime | .const => none

/-- A scope as text; `smart` is the text of the scope that follows the bean. -/
def Scope.visibility (smart : String) : Scope → String
  | .smart => smart
  | .hidden => ""
  | .package => "pub(crate) "
  | .everywhere => "pub "

/-- The traits to generate: all in the full style, else those that the bean does not have. -/
def GeneratedTraits.of (d : BeanDecl) (style : BeanStyle) : GeneratedTraits :=
  let full := decide (style = .full)
  { clone := match d.options.clone with
      | .omit => false
      | .generate => true
      | .smart => full || !d.has "Clone"
    partialEq := full || !d.has "PartialEq"
    eq := full || !(d.has "Eq" || d.has "PartialEq")
    hash := full || !d.has "Hash"
    display := full || !d.has "Display" }

/-- Resolves properties; every one that cannot be resolved gives a fault at its line. -/
def resolveProperties (immutable : Bool) (params : List String) (s : Settings) :
    List PropertyDecl → Checked (List PropertyModel)
  | [] => .ok []
  | p :: rest =>
    match PropertyModel.resolve p immutable params s, resolveProperties immutable params s rest with
    | .ok model, .ok others => .ok (model :: others)
    | .ok _, .error faults => .error faults
    | .error fault, .ok _ => .error [⟨p.line, fault, none⟩]
    | .error fault, .error faults => .error (⟨p.line, fault, none⟩ :: faults)

/-- The parent of a declaration. -/
def ParentField.of? (d : BeanDecl) : Option ParentField := do
  let parent ← d.options.parent
  let field ← d.field? parent.name
  some ⟨parent.name, field.ty⟩

/-- The model of a declaration. -/
def BeanModel.resolve (d : BeanDecl) (s : Settings) : Checked BeanModel := do
  let style := d.style s
  let params := beanParameters d.generics
  let names := params.map BeanParameter.name
  let properties ← resolveProperties d.isImmutable names s d.properties
  let visibility := d.visibility.render
  return {
    name := d.name.name, visibility, params,
    conditions := d.generics.conditions.map fun toks => tidy (showToks toks)
    style, immutable := d.isImmutable, parent := ParentField.of? d
    constructorVisibility := (d.options.constructorScope.getD .smart).visibility ""
    metaVisibility := d.options.metaScope.visibility visibility
    builderVisibility := d.options.builderScope.visibility visibility
    factory := d.options.factory.map NameAt.name, cacheHash := d.options.cacheHash
    generates := GeneratedTraits.of d style, tags := d.options.tags, properties
    computed := d.derived.map fun c => ComputedModel.resolve c names
    fields := d.fields.map fun f => f.name.name, doc := d.doc }

/-! ### Questions -/

/-- Whether a bean has no parent. -/
def BeanModel.isRoot (b : BeanModel) : Bool := b.parent.isNone

/-- Whether a bean has a typed builder. -/
def BeanModel.hasBuilder (b : BeanModel) : Bool := b.immutable && decide (b.style ≠ .light)

/-- The names of the type parameters. -/
def BeanModel.paramNames (b : BeanModel) : List String := b.params.map BeanParameter.name

/-- The type parameters in angle brackets. -/
def BeanModel.tyGenerics (b : BeanModel) : String :=
  if b.params.isEmpty then "" else "<" ++ Text.joinWith ", " b.paramNames ++ ">"

/-- A type with the type parameters of the bean. -/
def BeanModel.withParams (b : BeanModel) (name : String) : String := name ++ b.tyGenerics

/-- The type of the bean. -/
def BeanModel.selfTy (b : BeanModel) : String := b.withParams b.name

/-- The name of the meta-bean's type. -/
def BeanModel.metaName (b : BeanModel) : String := b.name ++ "Meta"

/-- The type of the meta-bean. -/
def BeanModel.metaTy (b : BeanModel) : String := b.withParams b.metaName

/-- The name of the builder's type. -/
def BeanModel.builderName (b : BeanModel) : String := b.name ++ "Builder"

/-- The type of the builder. -/
def BeanModel.builderTy (b : BeanModel) : String := b.withParams b.builderName

/-- The conditions on the type parameters with a blank before them. -/
def BeanModel.conditionsText (b : BeanModel) : String :=
  match b.conditions with
  | some text => " " ++ text
  | none => ""

/-- The fields that are neither properties nor the parent. -/
def BeanModel.plainFields (b : BeanModel) : List String :=
  b.fields.filter fun field =>
    !(b.properties.any fun p => p.field == field) && !(b.parent.any fun p => p.field == field)

end Beans
