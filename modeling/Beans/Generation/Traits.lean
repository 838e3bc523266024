import Beans.Generation.MetaBean
import Beans.Property.Comparison

/-!
# Generated implementations of traits

The traits that make a type a bean, and those of the standard library that the bean does not have.

## Main definitions

* `BeanModel.beanImpls` — the traits of the runtime library.
* `BeanModel.comparisons`, `BeanModel.equalityFunction` — the comparisons of two beans.
* `BeanModel.feedings`, `BeanModel.hashFunction` — what is fed to a hasher.
* `BeanModel.objectImpls` — the traits of the standard library.
-/

set_option autoImplicit false

namespace Beans

open Layout

/-! ### Traits of the runtime library -/

/-- The trait of beans. -/
def BeanModel.beanImpl (b : BeanModel) : CodeDraft :=
  b.implBlock (some RuntimeItem.bean) b.selfTy
    (functionsDraft
      [{ name := "meta_bean"
         signature := "(&self) -> " ++ sharedPointer ++ "<dyn " ++ RuntimeItem.metaBean ++ ">"
         body := [.line "Self::meta()"] },
       { name := "clone_bean", signature := "(&self) -> Box<dyn " ++ RuntimeItem.bean ++ ">"
         body := [.line "Box::new(self.clone())"] }])

/-- The trait of types with a meta-bean. -/
def BeanModel.definitionImpl (b : BeanModel) : CodeDraft :=
  b.implBlock (some RuntimeItem.beanDefinition) b.selfTy
    (.line ("type Meta = " ++ b.metaReference ++ ";") :: .blank ::
      Function.draft
        { name := "meta", signature := "() -> " ++ sharedPointer ++ "<Self::Meta>"
          body := [.line "Self::meta()"] })

/-- The trait of beans with a typed builder. -/
def BeanModel.immutableImpl (b : BeanModel) : CodeDraft :=
  b.implBlock (some RuntimeItem.immutableBean) b.selfTy
    (.line ("type Builder = " ++ b.builderTy ++ ";") :: .blank ::
      functionsDraft
        [{ name := "builder", signature := "() -> Self::Builder"
           body := [.line "Self::builder()"] },
         { name := "to_builder", signature := "(&self) -> Self::Builder"
           body := [.line "Self::to_builder(self)"] }])

/-- The function that describes the type. -/
def BeanModel.typeInfoFunction (b : BeanModel) : Function where
  name := "type_info"
  signature := "() -> " ++ sharedPointer ++ "<" ++ RuntimeItem.typeInfo ++ ">"
  body :=
    [.line ("let name = " ++ b.fullName ++ ";"), .line (RuntimeItem.types.named ++ "::intern("),
      .indent, .line (RuntimeItem.typeInfo.named ++ "::class(name)"), .indent] ++
    b.paramNames.map (fun p => .line (".with_param(" ++ Text.quoted p ++ ")")) ++
    b.parent.toList.map (fun parent =>
      .line (".with_supertype(" ++ typeExpression b.paramNames "name" parent.ty ++ ")")) ++
    [.dedent, .dedent, .line ")"]

/-- The function that gives the type with its arguments, for beans with type parameters. -/
def BeanModel.resolvedTypeFunction (b : BeanModel) : List Function :=
  if b.params.isEmpty then []
  else
    let resolved := RuntimeItem.resolvedType.named
    let argument (p : String) : Fragment :=
      "<" ++ p ++ " as " ++ RuntimeItem.propertyType ++ ">::resolved_type()"
    [{ name := "resolved_type", signature := "() -> " ++ resolved
       body :=
        [.line (resolved ++ "::of(Self::type_info(), vec![" ++
            Fragment.joinWith ", " (b.paramNames.map argument) ++ "])"),
          .indent,
          .line (".unwrap_or_else(|_| " ++ resolved ++ "::of_raw(Self::type_info()))"),
          .dedent] }]

/-- The functions that convert to and from dynamic values. -/
def BeanModel.conversionFunctions (b : BeanModel) : List Function :=
  b.typeInfoFunction :: b.resolvedTypeFunction ++
    [{ name := "to_value", signature := "(&self) -> " ++ RuntimeItem.value
       body := [.line (RuntimeItem.value.named ++ "::bean(self.clone())")] },
     { name := "from_value"
       signature := "(value: " ++ RuntimeItem.value ++ ") -> Result<Self, " ++
        RuntimeItem.beanError ++ ">"
       body := [.line "value.into_typed_bean()"] }]

/-- The implementations of the traits of the runtime library. -/
def BeanModel.beanImpls (b : BeanModel) : CodeDraft :=
  b.beanImpl ++ .blank :: b.definitionImpl ++ .blank ::
    (if b.hasBuilder then b.immutableImpl ++ [.blank] else []) ++
    b.implBlock (some RuntimeItem.propertyType) b.selfTy (functionsDraft b.conversionFunctions)

/-! ### Equality -/

/-- The expression that compares a field. -/
def Comparison.term : Comparison → Fragment
  | own field => "self." ++ field ++ " == other." ++ field
  | byType field =>
    RuntimeItem.propertyType.named ++ "::equal(&self." ++ field ++ ", &other." ++ field ++ ")"

/-- The comparisons that tell whether two beans are equal: of the parent, then of the properties. -/
def BeanModel.comparisons (b : BeanModel) : List Comparison :=
  b.parent.toList.map (fun parent => .own parent.field) ++
    b.properties.filterMap fun p => p.equals.comparison? p.shown p.field

/-- The function that makes some comparisons of two beans. -/
def equalityOf (comparisons : List Comparison) : Function :=
  match comparisons with
  | [] => { name := "eq", signature := "(&self, _other: &Self) -> bool", body := [.line "true"] }
  | first :: rest =>
    { name := "eq", signature := "(&self, other: &Self) -> bool"
      body := .line first.term :: .indent ::
        rest.map (fun c => .line ("&& " ++ c.term)) ++ [.dedent] }

/-- The function that compares two beans. -/
def BeanModel.equalityFunction (b : BeanModel) : Function := equalityOf b.comparisons

/-! ### Hashing -/

/-- The statement that feeds a field to a hasher. -/
def Feeding.statement (hasher : String) : Feeding → Fragment
  | own field => "::std::hash::Hash::hash(&self." ++ field ++ ", " ++ hasher ++ ");"
  | byType field =>
    RuntimeItem.propertyType.named ++ "::hash_code(&self." ++ field ++ ", " ++ hasher ++ ");"

/-- What is fed to a hasher for a bean: its parent, then its properties. -/
def BeanModel.feedings (b : BeanModel) : List Feeding :=
  b.parent.toList.map (fun parent => .own parent.field) ++
    b.properties.filterMap fun p => p.equals.feeding? p.shown p.field

/-- The function that feeds a bean to a hasher. If the code is kept then the bean is fed to a hasher
of its own, and the code of that one to the hasher. -/
def hashOf (caches : Bool) (feedings : List Feeding) : Function :=
  let statements (hasher : String) : CodeDraft :=
    feedings.map fun f => .line (f.statement hasher)
  let signature (state : String) : String :=
    "<H: ::std::hash::Hasher>(&self, " ++ state ++ ": &mut H)"
  if caches then
    { name := "hash", signature := signature "state"
      body :=
        block "let code = *self.hash_cache.get_or_init(|| \x7b"
          (.line "let mut hasher = ::std::hash::DefaultHasher::new();" ::
            statements "&mut hasher" ++ [.line "::std::hash::Hasher::finish(&hasher)"])
          "\x7d);" ++
        [.line "::std::hash::Hasher::write_u64(state, code);"] }
  else
    { name := "hash", signature := signature (if feedings.isEmpty then "_state" else "state")
      body := statements "state" }

/-- The function that feeds a bean to a hasher. -/
def BeanModel.hashFunction (b : BeanModel) : Function := hashOf b.cacheHash b.feedings

/-! ### The text form -/

/-- The line of a property in the text form, unless it is left out. -/
def PropertyModel.displayLine? (p : PropertyModel) : Option Fragment :=
  let name := Text.quoted p.name
  if !p.getter.isReadable then some (".hidden(" ++ name ++ ")")
  else match p.toText with
    | .omit => none
    | .field => some (".value(" ++ name ++ ", &" ++ RuntimeItem.value ++
        "::String(format!(\"\x7b:?\x7d\", self." ++ p.field ++ ")))")
    | .smart =>
      if p.shown then
        some (".field(" ++ name ++ ", &<" ++ p.ty ++ ">::from(self." ++ p.field ++ ".clone()))")
      else some (".field(" ++ name ++ ", &self." ++ p.field ++ ")")

/-- The function that writes the text form. -/
def BeanModel.displayFunction (b : BeanModel) : Function where
  name := "fmt"
  signature := "(&self, f: &mut ::std::fmt::Formatter<'_>) -> ::std::fmt::Result"
  body :=
    [.line (RuntimeItem.utils.named ++ "::ToStringBuilder::new(f, " ++ b.nameLiteral ++ ")"),
      .indent] ++
    b.parent.toList.map (fun parent => .line (".parent(&self." ++ parent.field ++ ")")) ++
    (b.properties.filterMap PropertyModel.displayLine?).map (fun text => .line text) ++
    b.computed.map (fun c =>
      .line (".field(" ++ Text.quoted c.name ++ ", &self." ++ identifierText c.name ++ "())")) ++
    [.line ".finish()", .dedent]

/-! ### Traits of the standard library -/

/-- The function that copies a bean field by field. -/
def BeanModel.cloneFunction (b : BeanModel) : Function where
  name := "clone"
  signature := "(&self) -> Self"
  body :=
    braced "Self"
      (listed (plainFragments (b.fields.map fun f => f ++ ": self." ++ f ++ ".clone()")))

/-- The implementation of a trait by one function. -/
def BeanModel.traitImpl (b : BeanModel) (trait : String) (f : Function) : CodeDraft :=
  b.implBlock (some trait) b.selfTy f.draft ++ [.blank]

/-- The implementations of the traits of the standard library. -/
def BeanModel.objectImpls (b : BeanModel) : CodeDraft :=
  (if b.generates.clone then b.traitImpl "Clone" b.cloneFunction else []) ++
  (if b.generates.partialEq then b.traitImpl "PartialEq" b.equalityFunction else []) ++
  (if b.generates.eq then [.line (b.implHeader (some "Eq") b.selfTy ++ "\x7d"), .blank] else []) ++
  (if b.generates.hash then b.traitImpl "::std::hash::Hash" b.hashFunction else []) ++
  (if b.generates.display then b.traitImpl "::std::fmt::Display" b.displayFunction else [])

end Beans
