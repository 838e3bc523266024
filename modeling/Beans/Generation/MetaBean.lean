import Beans.Generation.Parts
import Beans.Property.Style

/-!
# Generated meta-beans

Beans of the typed styles get a type of their own for the meta-bean, with a field for each
meta-property. The other styles fill a table in the function that returns the meta-bean.

## Main definitions

* `Attachment` — what a stored meta-property is given: its style, getter and setter.
* `BeanModel.mapSteps` — the calls by which generated code draws up its property map.
* `BeanModel.metaFunction` — the function that returns the meta-bean.
* `BeanModel.metaType` — the type of the meta-bean with its implementations.
-/

set_option autoImplicit false

namespace Beans

open Layout

/-! ### Meta-properties -/

/-- What a stored meta-property is given. -/
structure Attachment where
  /-- The style. -/
  style : PropertyStyle
  /-- The expression that reads the value. -/
  getter : Option String
  /-- The lines that write a value. -/
  setter : Option (List Fragment)

/-- What the meta-property of a stored property is given. -/
def BeanModel.attachment (b : BeanModel) (p : PropertyModel) : Attachment where
  style :=
    if b.immutable then .immutable
    else match p.getter.isReadable, p.setter.isWritable with
      | true, true => .readWrite
      | false, true => .writeOnly
      | _, false => .readOnly
  getter := p.getter.metaRead? p.ty p.field (identifierText p.name)
  setter := p.setter.metaWrite? p.field p.setterName
    (p.validation.map fun rule => checkStatement rule "value" p.name) p.isChecked p.shown

/-- The expression that starts a meta-property of the bean type `beanTy`. -/
def metaPropertyStart (beanTy ty name : String) (style : PropertyStyle) : Fragment :=
  RuntimeItem.directMetaProperty.named ++ "::<" ++ beanTy ++ ", " ++ ty ++ ">::new(" ++
    Text.quoted name ++ ", bean_type.clone(), " ++ RuntimeItem.propertyStyle ++ "::" ++
    style.name ++ ")"

/-- The line that gives a meta-property its declared type. -/
def BeanModel.genericTypeLine (b : BeanModel) (ty : Syntax.Ty) : Fragment :=
  ".with_generic_type(" ++ typeExpression b.paramNames "bean_type.name()" ty ++ ")"

/-- The lines that attach a setter. -/
def setterDraft : List Fragment → CodeDraft
  | [only] => [.line (".with_setter(|bean, value| " ++ only ++ ")")]
  | body => block ".with_setter(|bean, value| \x7b" (body.map .line) "\x7d)"

/-- The meta-property of a stored property. -/
def BeanModel.storedMeta (b : BeanModel) (beanTy : String) (p : PropertyModel) : CodeDraft :=
  let a := b.attachment p
  .line (metaPropertyStart beanTy p.ty p.name a.style) :: .indent ::
    (if p.generic then [.line (b.genericTypeLine p.shownTy)] else []) ++
    p.tags.map (fun tag => .line (".with_annotation(" ++ annotationExpression tag ++ ")")) ++
    a.getter.toList.map (fun read => .line (".with_getter(|bean| " ++ read ++ ")")) ++
    (a.setter.map setterDraft).getD [] ++ [.dedent]

/-- The meta-property of a computed property. -/
def BeanModel.computedMeta (b : BeanModel) (beanTy : String) (c : ComputedModel) : CodeDraft :=
  let declared := if c.generic then c.ty?.toList else []
  .line (metaPropertyStart beanTy c.ty c.name .derived) :: .indent ::
    declared.map (fun ty => .line (b.genericTypeLine ty)) ++
    [.line (".with_getter(|bean| bean." ++ identifierText c.name ++ "())"), .dedent]

/-- All meta-properties with their names: stored ones, then computed ones. -/
def BeanModel.metaProperties (b : BeanModel) (beanTy : String) : List (String × CodeDraft) :=
  (b.properties.map fun p => (p.name, b.storedMeta beanTy p)) ++
    b.computed.map fun c => (c.name, b.computedMeta beanTy c)

/-- Names and types of all properties: stored ones, then computed ones. -/
def BeanModel.typedNames (b : BeanModel) : List (String × String) :=
  (b.properties.map fun p => (p.name, p.ty)) ++ b.computed.map fun c => (c.name, c.ty)

/-! ### The property map -/

/-- The line for the type of the bean. -/
def beanTypeLine (beanTy : String) : Write Fragment :=
  .line ("let bean_type = " ++ RuntimeItem.beanType ++ "::new::<" ++ beanTy ++ ">(<" ++ beanTy ++
    " as " ++ RuntimeItem.propertyType ++ ">::type_info());")

/-- The lines that take over the properties of a parent. -/
def inheritDraft (beanTy : String) (parent : ParentField) : CodeDraft :=
  block
    (".inherit(" ++ RuntimeItem.metaBean ++ "::meta_property_map(&*<" ++ parent.tyText ++ " as " ++
      RuntimeItem.beanDefinition ++ ">::meta()), |inner| \x7b")
    (block
      (sharedPointer ++ "::new(" ++ RuntimeItem.inheritedMetaProperty ++ "::<" ++ beanTy ++
        ">::new(")
      [.line "inner,", .line "bean_type.clone(),", .line ("|bean| &bean." ++ parent.field ++ ","),
        .line ("|bean| &mut bean." ++ parent.field)]
      "))")
    "\x7d)"

/-- A call by which generated code draws up its property map. -/
inductive MapStep
  /-- The properties of the parent are taken over. -/
  | inherit (parent : ParentField)
  /-- A stored property is added. -/
  | stored (p : PropertyModel)
  /-- A computed property is added. -/
  | computed (c : ComputedModel)
  /-- Another name for a property is added. -/
  | alsoNamed (other name : String)

/-- The calls that draw up the property map: the parent comes first and other names last. -/
def BeanModel.mapSteps (b : BeanModel) : List MapStep :=
  b.parent.toList.map .inherit ++ b.properties.map .stored ++ b.computed.map .computed ++
    b.properties.filterMap fun p => p.otherName.map fun other => .alsoNamed other p.name

/-- The lines of a call. `added` gives those that add a meta-property of a name and a draft. -/
def BeanModel.mapStepDraft (b : BeanModel) (beanTy : String) (added : String → CodeDraft → CodeDraft) :
    MapStep → CodeDraft
  | .inherit parent => inheritDraft beanTy parent
  | .stored p => added p.name (b.storedMeta beanTy p)
  | .computed c => added c.name (b.computedMeta beanTy c)
  | .alsoNamed other name =>
    [.line (".alias(" ++ Text.quoted other ++ ", " ++ Text.quoted name ++ ")")]

/-- The lines that build the property map. -/
def BeanModel.mapDraft (b : BeanModel) (beanTy : String) (added : String → CodeDraft → CodeDraft) :
    CodeDraft :=
  .line ("let map = " ++ RuntimeItem.metaPropertyMap ++ "::builder(bean_type.name())") :: .indent ::
    b.mapSteps.flatMap (b.mapStepDraft beanTy added) ++
    [.line ".build()",
      .line (".unwrap_or_else(|err| panic!(\"invalid " ++ b.name ++
        " properties: \x7berr\x7d\"));"),
      .dedent]

/-! ### Tables -/

/-- The expression that takes the value of a property from the arguments of a constructor. -/
def takeArgument (p : PropertyModel) : Fragment :=
  let name := Text.quoted p.name
  if p.shown then
    "<" ++ p.fieldTyText ++ ">::from(args.take::<" ++ p.ty ++ ">(" ++ name ++ ")?)"
  else if p.builder.any fun field => field.init.isSome then "args.take_or_default(" ++ name ++ ")?"
  else "args.take(" ++ name ++ ")?"

/-- The table that is fed by the constructor. -/
def BeanModel.constructorTable (b : BeanModel) : CodeDraft :=
  let table := RuntimeItem.lightMetaBean.named
  if b.properties.isEmpty then
    [.line (table ++ "::new(bean_type, map, |_| Ok(Box::new(Self::from_properties()?)))")]
  else
    block (table ++ "::new(bean_type, map, |mut args| \x7b")
      (block "Ok(Box::new(Self::from_properties(" (listed (b.properties.map takeArgument)) ")?))")
      "\x7d)"

/-- The table that is fed by a supplier of builders. -/
def BeanModel.supplierTable (b : BeanModel) : CodeDraft :=
  let supplier : Fragment :=
    if b.immutable then "Box::new(Self::builder())"
    else "Box::new(" ++ RuntimeItem.basicBeanBuilder ++ "::new(<Self as Default>::default()))"
  [.line (RuntimeItem.minimalMetaBean.named ++ "::new(bean_type, map, Some(|| -> Box<dyn " ++
    RuntimeItem.beanBuilder ++ "> \x7b " ++ supplier ++ " \x7d))")]

/-- The type of the meta-bean's table, for the styles that have one. -/
def BeanStyle.table? : BeanStyle → Option RuntimeItem
  | .light => some .lightMetaBean
  | .minimal => some .minimalMetaBean
  | .smart | .full => none

/-- The function body that fills a table. -/
def BeanModel.tableDraft (b : BeanModel) (table : RuntimeItem) : CodeDraft :=
  let added (_ : String) (draft : CodeDraft) : CodeDraft :=
    block ".property(" (block (sharedPointer ++ "::new(") draft ")") ")"
  let start : Fragment := RuntimeItem.staticMeta.named ++ "::<Self, " ++ table ++ ">(|| \x7b"
  block start
    (beanTypeLine "Self" :: b.mapDraft "Self" added ++
      (if b.style = .light then b.constructorTable else b.supplierTable) ++
      (if b.tags.isEmpty then []
        else [.line (".with_annotations(" ++ annotationsExpression b.tags ++ ")")]))
    "\x7d)"

/-! ### The function and the type -/

/-- The type of the meta-bean in the code of the bean. -/
def BeanModel.metaReference (b : BeanModel) : Fragment :=
  match b.style.table? with
  | some table => table
  | none => b.metaTy

/-- The function that returns the meta-bean. -/
def BeanModel.metaFunction (b : BeanModel) : Function where
  docs := [s!"Returns the meta-bean of `{b.name}`."]
  visibility := b.metaVisibility
  name := "meta"
  signature := "() -> " ++ sharedPointer ++ "<" ++ b.metaReference ++ ">"
  body := match b.style.table? with
    | some table => b.tableDraft table
    | none =>
      [.line (RuntimeItem.staticMeta.named ++ "::<Self, " ++ b.metaTy ++ ">(" ++
        typeInExpression b.metaTy ++ "::new)")]

/-- The type of a meta-property in the meta-bean. -/
def BeanModel.metaFieldTy (b : BeanModel) (ty : String) : Fragment :=
  sharedPointer ++ "<" ++ RuntimeItem.directMetaProperty ++ "<" ++ b.selfTy ++ ", " ++ ty ++ ">>"

/-- The field that refers to the type parameters, if there are any. -/
def BeanModel.markerField (b : BeanModel) : List Fragment :=
  if b.params.isEmpty then []
  else ["_marker: ::std::marker::PhantomData<fn() -> " ++ b.selfTy ++ ">"]

/-- The value of the field that refers to the type parameters. -/
def BeanModel.markerValue (b : BeanModel) : List Fragment :=
  if b.params.isEmpty then [] else ["_marker: ::std::marker::PhantomData"]

/-- The declaration of the meta-bean's type. -/
def BeanModel.metaStruct (b : BeanModel) : CodeDraft :=
  .doc s!"Meta-bean of [`{b.name}`]." ::
    braced
      (b.metaVisibility ++ "struct " ++ b.metaName ++ b.implGenerics ++ b.conditionsText ++
        RuntimeItem.directMetaProperty.needed)
      (.line ("bean_type: " ++ RuntimeItem.beanType ++ ",") ::
        .line ("map: " ++ RuntimeItem.metaPropertyMap ++ ",") ::
        listed
          (("annotations: Vec<" ++ RuntimeItem.tag.named ++ ">") ::
            b.typedNames.map (fun (name, ty) => identifierText name ++ ": " ++ b.metaFieldTy ty) ++
            b.markerField))

/-- The constructor of the meta-bean. -/
def BeanModel.metaConstructor (b : BeanModel) : Function where
  name := "new"
  signature := "() -> Self"
  body :=
    let names : List String := b.typedNames.map fun (name, _) => identifierText name
    beanTypeLine b.selfTy ::
      (b.metaProperties b.selfTy).flatMap (fun (name, draft) =>
        block ("let " ++ identifierText name ++ " = " ++ sharedPointer ++ "::new(") draft ");") ++
      b.mapDraft b.selfTy
        (fun name _ => [.line (".property(" ++ identifierText name ++ ".clone())")]) ++
      braced "Self"
        (listed
          (plainFragments ["bean_type", "map"] ++
            ("annotations: " ++ annotationsExpression b.tags) :: plainFragments names ++
            b.markerValue))

/-- The function of the meta-bean that returns a meta-property. -/
def BeanModel.metaAccessor (b : BeanModel) (name ty : String) : Function where
  docs := [s!"The `{name}` meta-property."]
  visibility := b.metaVisibility
  name := identifierText name
  signature := "(&self) -> &" ++ b.metaFieldTy ty
  body := [.line ("&self." ++ identifierText name)]

/-- The functions that make the type a meta-bean. -/
def BeanModel.metaBeanFunctions (b : BeanModel) : List Function :=
  [{ name := "bean_type", signature := "(&self) -> &" ++ RuntimeItem.beanType
     body := [.line "&self.bean_type"] },
   { name := "meta_property_map", signature := "(&self) -> &" ++ RuntimeItem.metaPropertyMap
     body := [.line "&self.map"] },
   { name := "builder"
     signature := "(&self) -> Result<Box<dyn " ++ RuntimeItem.beanBuilder ++ ">, " ++
       RuntimeItem.beanError ++ ">"
     body :=
       if b.immutable then [.line ("Ok(Box::new(" ++ typeInExpression b.selfTy ++ "::builder()))")]
       else
         [.line ("Ok(Box::new(" ++ RuntimeItem.basicBeanBuilder ++ "::new(<" ++ b.selfTy ++
           " as Default>::default())))")] },
   { name := "annotations", signature := "(&self) -> &[" ++ RuntimeItem.tag ++ "]"
     body := [.line "&self.annotations"] }]

/-- The type of the meta-bean with its implementations. -/
def BeanModel.metaType (b : BeanModel) : CodeDraft :=
  b.metaStruct ++ .blank ::
    b.implBlock none b.metaTy
      (functionsDraft
        (b.metaConstructor :: b.typedNames.map fun (name, ty) => b.metaAccessor name ty)) ++
    .blank ::
    b.implBlock (some RuntimeItem.metaBean) b.metaTy (functionsDraft b.metaBeanFunctions)

end Beans
