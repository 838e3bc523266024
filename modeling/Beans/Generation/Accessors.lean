import Beans.Generation.MetaBean

/-!
# The functions of a bean

The inherent implementation: the meta-bean, the builder, constructors, and a getter and a setter for
each property that has them.

## Main definitions

* `BeanModel.functions` — the functions, in order.
* `BeanModel.inherentImpl` — the implementation that holds them.
-/

set_option autoImplicit false

namespace Beans

open Layout

/-- The documentation of a failing check. -/
def failureDocs (sentence : String) : List String := ["", "# Errors", "", sentence]

/-- The functions that make builders. -/
def BeanModel.builderFunctions (b : BeanModel) : List Function :=
  if !b.hasBuilder then []
  else
    [{ docs := ["Returns a builder with every property at its initial value."]
       visibility := b.builderVisibility, name := "builder"
       signature := "() -> " ++ b.builderTy
       body := [.line (typeInExpression b.builderTy ++ "::new()")] },
     { docs := ["Returns a builder holding a copy of this bean."]
       visibility := b.builderVisibility, name := "to_builder"
       signature := "(&self) -> " ++ b.builderTy
       body := [.line (typeInExpression b.builderTy ++ "::from_bean(self)")] }]

/-- The fields that a constructor takes, with their types: the properties and the parent. -/
def BeanModel.constructorFields (b : BeanModel) : List (String × String) :=
  (b.properties.map fun p => (p.field, p.fieldTyText)) ++
    b.parent.toList.map fun parent => (parent.field, parent.tyText)

/-- The signature of a constructor. -/
def BeanModel.constructorSignature (b : BeanModel) : Fragment :=
  "(" ++ Text.joinWith ", " (b.constructorFields.map fun (field, ty) => s!"{field}: {ty}") ++
    ") -> Result<Self, " ++ RuntimeItem.beanError ++ ">"

/-- The number of parameters beyond which a function is marked. -/
def manyParameters : Nat := 7

/-- A constructor that checks its arguments. -/
def BeanModel.constructor (b : BeanModel) (docs : List String) (visibility name : String) :
    Function :=
  let names := b.constructorFields.map Prod.fst
  { docs, visibility, name, signature := b.constructorSignature
    attributes :=
      if manyParameters < names.length then ["#[allow(clippy::too_many_arguments)]"] else []
    body :=
      b.properties.flatMap (fun p => p.validation.toList.map fun rule =>
        .line (checkStatement rule p.field p.name)) ++
      block "Ok(Self \x7b"
        (listed (plainFragments
          (names ++ b.plainFields.map fun field => field ++ ": Default::default()")))
        "\x7d)" }

/-- The documentation of constructors after their first sentence. -/
def constructorFailure : List String :=
  failureDocs "Returns a validation error when a property value is rejected."

/-- The constructor from property values, in immutable beans. -/
def BeanModel.propertiesConstructor (b : BeanModel) : List Function :=
  if !b.immutable then []
  else
    [b.constructor
      ("Creates the bean from its property values after validating them." :: constructorFailure)
      b.constructorVisibility "from_properties"]

/-- The factory function. -/
def BeanModel.factoryFunction (b : BeanModel) : List Function :=
  b.factory.toList.map fun factory =>
    let docs := s!"Creates a `{b.name}` from its property values." :: constructorFailure
    if b.immutable then
      { docs, visibility := "pub ", name := factory, signature := b.constructorSignature
        body := [.line ("Self::from_properties(" ++
          Text.joinWith ", " (b.constructorFields.map Prod.fst) ++ ")")] }
    else b.constructor docs "pub " factory

/-- The getter of a property, unless it has none that is generated. -/
def PropertyModel.getterFunction (p : PropertyModel) : List Function :=
  (p.getter.method? p.ty p.field).toList.map fun (result, body) =>
    { docs := [p.getterDoc], visibility := "pub ", name := identifierText p.name
      signature := "(&self) -> " ++ result, body := [.line body] }

/-- The setter of a property, unless it has none that is generated. -/
def PropertyModel.setterFunction (p : PropertyModel) : List Function :=
  if !p.setter.hasMethod then []
  else
    let result : Fragment :=
      if p.isChecked then " -> Result<(), " ++ RuntimeItem.beanError ++ ">" else ""
    [{ docs := p.setterDoc ::
         if p.isChecked then
           failureDocs "Returns a validation error when the value is rejected."
         else []
       visibility := "pub ", name := p.setterName
       signature := "(&mut self, " ++ p.field ++ ": " ++ p.ty ++ ")" ++ result
       body :=
         p.validation.toList.map (fun rule => .line (checkStatement rule p.field p.name)) ++
         (p.setter.methodBody p.field p.field p.shown).map (fun (s : String) => .line s) ++
         if p.isChecked then [.line "Ok(())"] else [] }]

/-- The functions of a bean, in order. -/
def BeanModel.functions (b : BeanModel) : List Function :=
  b.metaFunction :: b.builderFunctions ++ b.propertiesConstructor ++ b.factoryFunction ++
    b.properties.flatMap fun p => p.getterFunction ++ p.setterFunction

/-- The inherent implementation of a bean. -/
def BeanModel.inherentImpl (b : BeanModel) : CodeDraft :=
  b.implBlock none b.selfTy (functionsDraft b.functions)

end Beans
