import Beans.Generation.Parts

/-!
# Generated builders

The type that collects the values of an immutable bean, by fluent functions or by the names of its
properties.

## Main definitions

* `BeanModel.builtProperties` — the properties with the fields that hold them.
* `BeanModel.builderType` — the type of the builder with its implementations.
-/

set_option autoImplicit false

namespace Beans

open Layout

/-- The properties of an immutable bean with the builder fields that hold them. -/
def BeanModel.builtProperties (b : BeanModel) : List (PropertyModel × BuilderField) :=
  b.properties.filterMap fun p => p.builder.map fun field => (p, field)

/-- The type of a parent's builder. -/
def ParentField.builderTy (parent : ParentField) : Fragment :=
  "<" ++ parent.tyText ++ " as " ++ RuntimeItem.immutableBean ++ ">::Builder"

/-- The parent's builder that starts from a bean. -/
def ParentField.toBuilder (parent : ParentField) (bean : String) : Fragment :=
  "<" ++ parent.tyText ++ " as " ++ RuntimeItem.immutableBean ++ ">::to_builder(&" ++ bean ++ ")"

/-- The field that refers to the type parameters, if there are any, with what follows its name. -/
def BeanModel.marker (b : BeanModel) (rest : String) : List Fragment :=
  if b.params.isEmpty then [] else plainFragments ["_marker: ::std::marker::PhantomData" ++ rest]

/-- One fragment for each property and one for the parent. -/
def BeanModel.eachPart (b : BeanModel) (ofProperty : PropertyModel → BuilderField → Fragment)
    (ofParent : ParentField → Fragment) : List Fragment :=
  b.builtProperties.map (fun (p, field) => ofProperty p field) ++ b.parent.toList.map ofParent

/-! ### The inherent functions -/

/-- The declaration of the builder's type. -/
def BeanModel.builderStruct (b : BeanModel) : CodeDraft :=
  .doc s!"Builder of [`{b.name}`]." ::
    braced (b.builderVisibility ++ "struct " ++ b.builderName ++ b.implGenerics ++ b.conditionsText)
      (listed
        (b.eachPart (fun p field => p.field ++ ": " ++ field.declaredType)
            (fun parent => parent.field ++ ": " ++ parent.builderTy) ++
          b.marker ("<fn() -> " ++ b.selfTy ++ ">")))

/-- The function that makes a builder without values. -/
def BeanModel.builderNew (b : BeanModel) : Function where
  name := "new"
  signature := "() -> Self"
  body :=
    braced "Self"
      (listed
        (b.eachPart (fun p field => p.field ++ ": " ++ field.initial)
            (fun parent => parent.field ++ ": <" ++ parent.tyText ++ " as " ++
              RuntimeItem.immutableBean ++ ">::builder()") ++
          b.marker ""))

/-- The function that makes a builder with the values of a bean. -/
def BeanModel.builderFromBean (b : BeanModel) : Function where
  name := "from_bean"
  signature := "(bean: &" ++ b.selfTy ++ ") -> Self"
  body :=
    braced "Self"
      (listed
        (b.eachPart (fun p field => p.field ++ ": " ++ field.copyFromBean ("bean." ++ p.field))
            (fun parent => parent.field ++ ": " ++ parent.toBuilder ("bean." ++ parent.field)) ++
          b.marker ""))

/-- The fluent function of a property. -/
def fluentFunction (p : PropertyModel) (field : BuilderField) : Function where
  docs := [s!"Sets the `{p.name}` property."]
  visibility := "pub "
  name := identifierText p.name
  signature := "(mut self, " ++ p.field ++ ": " ++ field.param ++ ") -> Self"
  body := [.line ("self." ++ p.field ++ " = " ++ field.store p.field ++ ";"), .line "self"]

/-- The fluent function of the parent. -/
def fluentParent (parent : ParentField) : Function where
  docs := [s!"Copies every property of the embedded `{parent.tyText}`."]
  visibility := "pub "
  name := parent.field
  signature := "(mut self, " ++ parent.field ++ ": " ++ parent.tyText ++ ") -> Self"
  body :=
    [.line ("self." ++ parent.field ++ " = " ++ parent.toBuilder parent.field ++ ";"), .line "self"]

/-- The error for a value that was never supplied. -/
def missingValue (property : String) : Fragment :=
  RuntimeItem.beanError.named ++ "::validation(" ++ Text.quoted property ++
    ", \"no value supplied\")"

/-- The bean value from the builder field of a property. -/
def builtValue (mode : Mode) (p : PropertyModel) (field : BuilderField) : Fragment :=
  field.buildValue ("self." ++ p.field) ((missingValue p.name).render mode)

/-- The function that builds the bean. -/
def BeanModel.buildFunction (b : BeanModel) (mode : Mode) : Function where
  docs := ["Builds the bean, validating every property.", "", "# Errors", "",
    "Returns a validation error when a required property was never set or a", "value is rejected."]
  visibility := "pub "
  name := "build"
  signature := "(self) -> Result<" ++ b.selfTy ++ ", " ++ RuntimeItem.beanError ++ ">"
  body :=
    block (typeInExpression b.selfTy ++ "::from_properties(")
      (listed
        (b.eachPart (builtValue mode) fun parent =>
          "<" ++ parent.builderTy ++ " as " ++ RuntimeItem.typedBeanBuilder ++ "<" ++
            parent.tyText ++ ">>::build_typed(self." ++ parent.field ++ ")?"))
      ")"

/-- The inherent functions of the builder. -/
def BeanModel.builderInherent (b : BeanModel) (mode : Mode) : List Function :=
  [b.builderNew, b.builderFromBean] ++
    b.builtProperties.map (fun (p, field) => fluentFunction p field) ++
    b.parent.toList.map fluentParent ++ [b.buildFunction mode]

/-! ### Access by name -/

/-- The line that finds the meta-bean. -/
def BeanModel.findMeta (b : BeanModel) : Write Fragment :=
  .line ("let meta = " ++ typeInExpression b.selfTy ++ "::meta();")

/-- The error for a name that no property has. -/
def unknownProperty : Fragment :=
  "Err(" ++ RuntimeItem.beanError ++ "::no_such_property(" ++ RuntimeItem.metaBean ++
    "::bean_name(&*meta), name))"

/-- A choice by the name of a property, with the lines before it. -/
def BeanModel.byName (b : BeanModel) (arms : CodeDraft) : CodeDraft :=
  [b.findMeta,
    .line ("let property = " ++ RuntimeItem.metaBean ++ "::meta_property(&*meta, name)?;")] ++
    braced ("match " ++ RuntimeItem.metaProperty ++ "::name(&*property)") arms

/-- The dynamic value of a builder field. -/
def fieldValue (p : PropertyModel) (field : BuilderField) : Fragment :=
  let access := "self." ++ p.field
  let toValue := RuntimeItem.propertyType.named ++ "::to_value"
  let unset : Fragment := access ++ ".as_ref().map_or(" ++ RuntimeItem.value ++ "::Null, "
  match p.shown, field.isRequired with
  | true, true => unset ++ "|v| " ++ toValue ++ "(&<" ++ p.ty ++ ">::from(v.clone())))"
  | true, false => toValue ++ "(&<" ++ p.ty ++ ">::from(" ++ access ++ ".clone()))"
  | false, true => unset ++ toValue ++ ")"
  | false, false => toValue ++ "(&" ++ access ++ ")"

/-- The value for a builder field from a dynamic value. -/
def readValue (p : PropertyModel) (field : BuilderField) : Fragment :=
  let decoded : Fragment :=
    if p.shown then
      "<" ++ p.ty ++ " as " ++ RuntimeItem.propertyType ++ ">::from_value(value)?.into()"
    else RuntimeItem.propertyType.named ++ "::from_value(value)?"
  if field.isRequired then "Some(" ++ decoded ++ ")" else decoded

/-- The function that reads a value by name. -/
def BeanModel.builderGet (b : BeanModel) : Function where
  name := "get"
  signature := "(&self, name: &str) -> Result<" ++ RuntimeItem.value ++ ", " ++
    RuntimeItem.beanError ++ ">"
  body :=
    let fromParent (parent : ParentField) : Fragment :=
      RuntimeItem.beanBuilder.named ++ "::get(&self." ++ parent.field ++ ", name)"
    if b.properties.isEmpty then
      match b.parent with
      | some parent => [.line (fromParent parent)]
      | none => [b.findMeta, .line unknownProperty]
    else
      b.byName
        (b.builtProperties.map (fun (p, field) =>
            .line (Text.quoted p.name ++ " => Ok(" ++ fieldValue p field ++ "),")) ++
          [.line ("_ => " ++ match b.parent with
            | some parent => fromParent parent
            | none => unknownProperty)])

/-- The function that sets a value by name. -/
def BeanModel.builderSet (b : BeanModel) : Function where
  name := "set"
  signature := "(&mut self, name: &str, value: " ++ RuntimeItem.value ++ ") -> Result<(), " ++
    RuntimeItem.beanError ++ ">"
  body :=
    let toParent (parent : ParentField) : Fragment :=
      RuntimeItem.beanBuilder.named ++ "::set(&mut self." ++ parent.field ++ ", name, value)"
    if b.properties.isEmpty then
      match b.parent with
      | some parent => [.line (toParent parent)]
      | none => [.line "let _ = value;", b.findMeta, .line unknownProperty]
    else
      b.byName
        (b.builtProperties.map (fun (p, field) =>
            .line (Text.quoted p.name ++ " => self." ++ p.field ++ " = " ++ readValue p field ++
              ",")) ++
          [.line ("_ => return " ++ match b.parent with
            | some parent => toParent parent
            | none => unknownProperty)]) ++
        [.line "Ok(())"]

/-- The function that builds a bean of any type. -/
def BeanModel.builderBuild (b : BeanModel) : Function where
  name := "build"
  signature := "(self: Box<Self>) -> Result<Box<dyn " ++ RuntimeItem.bean ++ ">, " ++
    RuntimeItem.beanError ++ ">"
  body := [.line ("Ok(Box::new(Self::build(*self)?))" ++
    if b.properties.isEmpty then RuntimeItem.metaProperty.needed else ⟨[]⟩)]

/-- The type of the builder with its implementations. -/
def BeanModel.builderType (b : BeanModel) (mode : Mode) : CodeDraft :=
  let typed := RuntimeItem.typedBeanBuilder.named ++ "<" ++ b.selfTy ++ ">"
  b.builderStruct ++ .blank ::
    b.implBlock none b.builderTy (functionsDraft (b.builderInherent mode)) ++ .blank ::
    b.implBlock (some RuntimeItem.beanBuilder) b.builderTy
      (functionsDraft [b.builderGet, b.builderSet, b.builderBuild]) ++ .blank ::
    b.implBlock (some typed) b.builderTy
      (Function.draft
        { name := "build_typed"
          signature := "(self) -> Result<" ++ b.selfTy ++ ", " ++ RuntimeItem.beanError ++ ">"
          body := [.line "Self::build(self)"] })

end Beans
