import Beans.Layout.Draft

/-!
# Fragments of generated text

Generated text names items of the runtime library. Code in a source file names them by short paths
and imports the first name of each; code that is expanded in place names them by absolute paths. A
fragment keeps the items apart from the text around them, so that both forms and the imports come
from one value.

## Main definitions

* `RuntimeItem` — the items of the runtime library that generated code names.
* `Fragment` — text with runtime items in it; texts are fragments without.
* `Mode` — where the generated code will stand.
-/

set_option autoImplicit false

namespace Beans

open Layout

/-- An item of the runtime library. -/
inductive RuntimeItem
  | tag
  | basicBeanBuilder
  | bean
  | beanBuilder
  | beanDefinition
  | beanError
  | beanType
  | directMetaProperty
  | genericType
  | immutableBean
  | inheritedMetaProperty
  | lightMetaBean
  | metaBean
  | metaProperty
  | metaPropertyMap
  | minimalMetaBean
  | propertyStyle
  | propertyType
  | resolvedType
  | staticMeta
  | typeInfo
  | typedBeanBuilder
  | types
  | utils
  | value
deriving DecidableEq, Repr

/-- The name to import for an item. -/
def RuntimeItem.head : RuntimeItem → String
  | .tag => "Annotation"
  | .basicBeanBuilder => "BasicBeanBuilder"
  | .bean => "Bean"
  | .beanBuilder => "BeanBuilder"
  | .beanDefinition => "BeanDefinition"
  | .beanError => "BeanError"
  | .beanType => "BeanType"
  | .directMetaProperty => "DirectMetaProperty"
  | .genericType => "GenericType"
  | .immutableBean => "ImmutableBean"
  | .inheritedMetaProperty => "InheritedMetaProperty"
  | .lightMetaBean => "LightMetaBean"
  | .metaBean => "MetaBean"
  | .metaProperty => "MetaProperty"
  | .metaPropertyMap => "MetaPropertyMap"
  | .minimalMetaBean => "MinimalMetaBean"
  | .propertyStyle => "PropertyStyle"
  | .propertyType => "PropertyType"
  | .resolvedType => "ResolvedType"
  | .staticMeta => "registry"
  | .typeInfo => "TypeInfo"
  | .typedBeanBuilder => "TypedBeanBuilder"
  | .types => "types"
  | .utils => "utils"
  | .value => "Value"

/-- The short path of an item. -/
def RuntimeItem.path : RuntimeItem → String
  | .staticMeta => "registry::static_meta"
  | item => item.head

/-- The name of the runtime library. -/
def runtimeName : String := "metabean"

/-- Where generated code will stand. -/
inductive Mode
  /-- In the source file of the bean. -/
  | source
  /-- Expanded in place. -/
  | derive
deriving DecidableEq, Repr

/-- The path of an item in generated code. -/
def RuntimeItem.pathIn (item : RuntimeItem) : Mode → String
  | .source => item.path
  | .derive => "::" ++ runtimeName ++ "::" ++ item.path

/-- A piece of a fragment. -/
inductive Piece
  | text (text : String)
  | item (runtime : RuntimeItem)
  /-- An item that is imported though it may not be named. -/
  | need (runtime : RuntimeItem)
deriving DecidableEq, Repr

/-- Generated text with runtime items in it. -/
structure Fragment where
  /-- The pieces, in order. -/
  pieces : List Piece
deriving DecidableEq, Repr

instance : Coe String Fragment := ⟨fun s => ⟨[.text s]⟩⟩

instance : Append Fragment := ⟨fun a b => ⟨a.pieces ++ b.pieces⟩⟩

instance : Inhabited Fragment := ⟨⟨[]⟩⟩

/-- Texts as fragments. -/
def plainFragments (texts : List String) : List Fragment := texts.map fun s => ⟨[.text s]⟩

/-- The fragment that names an item. -/
def RuntimeItem.named (item : RuntimeItem) : Fragment := ⟨[.item item]⟩

instance : Coe RuntimeItem Fragment := ⟨RuntimeItem.named⟩

/-- The empty fragment that has an item imported. -/
def RuntimeItem.needed (item : RuntimeItem) : Fragment := ⟨[.need item]⟩

/-- The text of a piece. -/
def Piece.render (mode : Mode) : Piece → String
  | .text s => s
  | .item runtime => runtime.pathIn mode
  | .need _ => ""

/-- The text of a fragment. -/
def Fragment.render (f : Fragment) (mode : Mode) : String :=
  String.join (f.pieces.map (Piece.render mode))

/-- The item of a piece. -/
def Piece.item? : Piece → Option RuntimeItem
  | .text _ => none
  | .item runtime => some runtime
  | .need runtime => some runtime

/-- The items of a fragment. -/
def Fragment.items (f : Fragment) : List RuntimeItem := f.pieces.filterMap Piece.item?

/-- Fragments with a separator between neighbours. -/
def Fragment.joinWith (sep : String) : List Fragment → Fragment
  | [] => ⟨[]⟩
  | [f] => f
  | f :: rest => f ++ sep ++ joinWith sep rest

/-- A list without repetitions of neighbours. -/
def dedupNeighbours : List String → List String
  | [] => []
  | s :: rest => match rest with
    | next :: _ => if s = next then dedupNeighbours rest else s :: dedupNeighbours rest
    | [] => [s]

/-- The names to import for some items, in order and without repetition; expanded code imports
none. -/
def importsFor (mode : Mode) (items : List RuntimeItem) : List String :=
  match mode with
  | .source =>
    dedupNeighbours ((items.map RuntimeItem.head).mergeSort fun a b => decide (a ≤ b))
  | .derive => []

/-- A draft of generated code. -/
abbrev CodeDraft := List (Write Fragment)

/-- The draft with its final text. -/
def CodeDraft.written (draft : CodeDraft) (mode : Mode) : List (Write String) :=
  mapAll (fun f => Fragment.render f mode) draft

/-- The items that a draft names. -/
def CodeDraft.items (draft : CodeDraft) : List RuntimeItem :=
  (textsAll draft).flatMap Fragment.items

/-- Items as lines, with a comma after each but the last. -/
def listed (items : List Fragment) : CodeDraft := commaLines (fun f => f ++ ",") items

end Beans
