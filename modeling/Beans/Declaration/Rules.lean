import Beans.Declaration.Basic
import Beans.Settings

/-!
# Rules of declarations

What a declaration has to fulfil before code is generated from it. Every violation is reported, in
the order of the rules below.

## Main definitions

* `BeanDecl.violations` — the violations of a declaration.
-/

set_option autoImplicit false

namespace Beans

open Syntax

/-- Names that generated code needs for itself. -/
def reservedNames : List String :=
  ["meta", "builder", "to_builder", "meta_bean", "clone_bean", "from_properties", "bean_type",
    "bean_name", "map", "annotation", "annotations", "meta_property", "meta_property_map",
    "meta_property_exists", "meta_property_count", "is_buildable", "new", "build", "from_bean"]

/-- The number of type parameters that a bean can have. -/
def parameterLimit : Nat := 3

/-- The style of a bean under some settings. -/
def BeanDecl.style (d : BeanDecl) (s : Settings) : BeanStyle :=
  (d.options.style <|> s.defaultStyle).getD .smart

/-- Whether a bean is immutable. -/
def BeanDecl.isImmutable (d : BeanDecl) : Bool :=
  d.options.immutable || isImmutableHierarchy d.options.hierarchy

/-- Whether a bean has no parent. -/
def BeanDecl.isRoot (d : BeanDecl) : Bool := d.options.parent.isNone

/-- A fault at a line if a condition holds. -/
def faultIf (condition : Bool) (line : Nat) (fault : Fault) : List FaultAt :=
  if condition then [⟨line, fault, none⟩] else []

/-- The hint about the hierarchy has to be known. -/
def hierarchyFaults (d : BeanDecl) : List FaultAt :=
  match d.options.hierarchy with
  | some hint => faultIf (!isImmutableHierarchy (some hint)) d.name.line (.unknownHierarchy hint)
  | none => []

/-- The styles with a table restrict the bean. -/
def styleFaults (d : BeanDecl) (style : BeanStyle) : List FaultAt :=
  match style with
  | .light =>
    if !d.isImmutable then [⟨d.name.line, .lightNeedsImmutable, none⟩]
    else faultIf (!d.isRoot) d.name.line (.styleWithParent style.word)
  | .minimal => faultIf (!d.isRoot) d.name.line (.styleWithParent style.word)
  | .smart | .full => []

/-- A factory makes immutable beans without a parent. -/
def factoryFaults (d : BeanDecl) : List FaultAt :=
  match d.options.factory with
  | some factory => faultIf (!(d.isImmutable && d.isRoot)) factory.line .factoryNeedsRoot
  | none => []

/-- Only immutable beans have a constructor with a visibility. -/
def constructorFaults (d : BeanDecl) : List FaultAt :=
  faultIf (!d.isImmutable && d.options.constructorScope.isSome) d.name.line
    .constructorScopeOnMutable

/-- A kept hash code needs an immutable bean and a field to keep it in. -/
def cacheFaults (d : BeanDecl) : List FaultAt :=
  if !d.options.cacheHash then []
  else
    faultIf (!d.isImmutable) d.name.line .cachedHashOnMutable ++
      match d.field? "hash_cache" with
      | some field => faultIf (field.ty.name? != some "OnceLock") field.tyLine .cacheFieldType
      | none => [⟨d.name.line, .cacheFieldMissing, none⟩]

/-- The parent is in a field that is no property. -/
def parentFaults (d : BeanDecl) : List FaultAt :=
  match d.options.parent with
  | some parent =>
    match d.field? parent.name with
    | none => [⟨parent.line, .parentMissing parent.name, none⟩]
    | some field => faultIf field.isProperty parent.line (.parentIsProperty parent.name)
  | none => []

/-- The reason to reject a type in an immutable bean. -/
def rejection? (ty : String) (s : Settings) : Option Fault :=
  ((typeWords ty).findSome? (s.profile.find? .invalidType)).map fun reason =>
    .rejectedType reason ty

/-- Whether a visibility is none. -/
def isInherited : Visibility → Bool
  | .inherited => true
  | .pub | .restricted _ => false

/-- What an immutable bean asks of one property. -/
def frozenPropertyFaults (s : Settings) (p : PropertyDecl) : List FaultAt :=
  faultIf (!isInherited p.visibility) p.visibilityLine .visibleProperty ++
    faultIf (p.options.setStyle.any fun style => !(Text.trim style).isEmpty) p.name.line
      .setterOnImmutable ++
    faultIf (p.options.getStyle.any fun style => (Text.trim style).isEmpty) p.name.line
      .unreadableProperty ++
    match rejection? p.ty.render s with
    | some fault => [⟨p.tyLine, fault, none⟩]
    | none => []

/-- What an immutable bean asks of a field that is no property. -/
def frozenFieldFaults (d : BeanDecl) (f : FieldDecl) : List FaultAt :=
  let allowed := d.options.parent.any (fun p => p.name == f.name.name) ||
    d.options.cacheHash && f.name.name == "hash_cache"
  faultIf (!allowed) f.name.line (.plainField f.name.name)

/-- What an immutable bean asks of its fields. -/
def frozenFaults (d : BeanDecl) (s : Settings) : List FaultAt :=
  if !d.isImmutable then []
  else
    d.properties.flatMap (frozenPropertyFaults s) ++
      (d.fields.filter fun f => !f.isProperty).flatMap (frozenFieldFaults d)

/-- The names of properties are not reserved and differ from each other and from those before. -/
def nameFaults : List String → List NameAt → List FaultAt × List String
  | taken, [] => ([], taken)
  | taken, n :: rest =>
    let here := faultIf (reservedNames.contains n.name) n.line (.reservedName n.name) ++
      faultIf (taken.contains n.name) n.line (.duplicateProperty n.name)
    let (faults, taken) := nameFaults (taken ++ [n.name]) rest
    (here ++ faults, taken)

/-- Aliases differ from each other and from all names. -/
def aliasFaults : List String → List PropertyDecl → List FaultAt
  | _, [] => []
  | taken, p :: rest =>
    match p.options.otherName with
    | some other =>
      faultIf (taken.contains other) p.name.line (.clashingAlias other) ++
        aliasFaults (taken ++ [other]) rest
    | none => aliasFaults taken rest

/-- The name of a declared property under some settings. -/
def PropertyDecl.propertyName (p : PropertyDecl) (s : Settings) : String :=
  Beans.propertyName p.name.name s.lead

/-- Names and aliases are unique, and names are not reserved. -/
def uniquenessFaults (d : BeanDecl) (s : Settings) : List FaultAt :=
  let stored := d.properties.map fun p => NameAt.mk (p.propertyName s) p.name.line
  let (faults, taken) := nameFaults [] (stored ++ d.derived.map DerivedDecl.name)
  faults ++ aliasFaults taken d.properties

/-- Beans have up to three type parameters and no others. -/
def parameterFaults (d : BeanDecl) : List FaultAt :=
  let others := d.generics.params.flatMap fun (p, line) => match p with
    | .type .. => []
    | .lifetime => [⟨line, .lifetimeParameter, none⟩]
    | .const => [⟨line, .constParameter, none⟩]
  let count := (d.generics.params.filter fun (p, _) => match p with
    | .type .. => true
    | .lifetime | .const => false).length
  others ++ faultIf (decide (parameterLimit < count)) (d.generics.line.getD d.name.line)
    (.tooManyParameters parameterLimit)

/-- What is generated in any case is not derived. -/
def deriveFaults (d : BeanDecl) (style : BeanStyle) : List FaultAt :=
  match style with
  | .full =>
    let generated := ["PartialEq", "Eq", "Hash"] ++
      if d.options.clone = .omit then [] else ["Clone"]
    (generated.filter d.has).map fun trait => ⟨d.name.line, .derivedAndGenerated trait, none⟩
  | .smart | .light | .minimal =>
    faultIf (decide (d.options.clone = .generate) && d.has "Clone") d.name.line
      .cloneDerivedAndGenerated

/-- How far a bean is visible. -/
def visibilityRank : Visibility → Nat
  | .inherited => 0
  | .restricted _ => 1
  | .pub => 2

/-- How far a scope makes an item visible, unless it follows the bean. -/
def scopeRank? : Scope → Option Nat
  | .smart => none
  | .hidden => some 0
  | .package => some 1
  | .everywhere => some 2

/-- Generated types are at least as visible as the bean. -/
def scopeFaults (d : BeanDecl) : List FaultAt :=
  [("meta_scope", d.options.metaScope), ("builder_scope", d.options.builderScope)].flatMap
    fun (entry, scope) =>
      faultIf ((scopeRank? scope).any fun rank => decide (rank < visibilityRank d.visibility))
        d.name.line (.narrowScope entry)

/-- The violations of a declaration, in the order of the rules. -/
def BeanDecl.violations (d : BeanDecl) (s : Settings) : List FaultAt :=
  let style := d.style s
  hierarchyFaults d ++ styleFaults d style ++ factoryFaults d ++ constructorFaults d ++
    cacheFaults d ++ parentFaults d ++ frozenFaults d s ++ uniquenessFaults d s ++
    parameterFaults d ++ deriveFaults d style ++ scopeFaults d

end Beans
