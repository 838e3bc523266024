import Beans.Declaration.Rules
import Beans.Model.Accessor

/-!
# Properties of a bean model

A declared property once its styles are resolved: how it is read, written and built, and what
stands in the documentation of its methods.

## Main definitions

* `PropertyModel` — a stored property; `PropertyModel.resolve` resolves a declared one.
* `ComputedModel` — a computed property.
-/

set_option autoImplicit false

namespace Beans

open Syntax

/-- A stored property. -/
structure PropertyModel where
  /-- The name of the field. -/
  field : String
  /-- The name of the property. -/
  name : String
  /-- The type of the field. -/
  fieldTy : Ty
  /-- The type that is shown, as text. -/
  ty : String
  /-- Whether a type of its own is shown. -/
  shown : Bool
  /-- How it is read. -/
  getter : Getter
  /-- How it is written. -/
  setter : Setter
  /-- The check of its values. -/
  validation : Option Validation
  /-- Another name. -/
  otherName : Option String
  /-- The part in equality and hashing. -/
  equals : PartStyle
  /-- The part in the text form. -/
  toText : PartStyle
  /-- The annotations. -/
  tags : List Tag
  /-- The first paragraph of the documentation. -/
  doc : Option String
  /-- How a builder holds it, in immutable beans. -/
  builder : Option BuilderField
  /-- Whether its type refers to a parameter of the bean. -/
  generic : Bool

/-- Resolves a declared property of a bean with the type parameters `params`. The getter is resolved
before the setter, which immutable beans have none of. -/
def PropertyModel.resolve (p : PropertyDecl) (immutable : Bool) (params : List String)
    (s : Settings) : Except Fault PropertyModel := do
  let shown := p.options.ty.isSome
  let ty := p.options.ty.getD p.ty
  let getter ← Getter.resolve p.options.getStyle p.ty shown s.profile
  let setter ← if immutable then .ok .readOnly else Setter.resolve p.options.setStyle p.ty shown
  return {
    field := p.name.name, name := p.propertyName s, fieldTy := p.ty, ty := ty.render, shown, getter,
    setter, validation := p.options.validation, otherName := p.options.otherName,
    equals := p.options.equals, toText := p.options.toText, tags := p.options.tags, doc := p.doc,
    builder :=
      if immutable then some (BuilderField.resolve p.ty p.options.builderType s.profile) else none
    generic := ty.mentions params }

/-- The type that is shown, read from its text. -/
def PropertyModel.shownTy (p : PropertyModel) : Ty := (readTy? p.ty).getD p.fieldTy

/-- The type of the field as text. -/
def PropertyModel.fieldTyText (p : PropertyModel) : String := p.fieldTy.render

/-- The name of the setter. -/
def PropertyModel.setterName (p : PropertyModel) : String := "set_" ++ p.name

/-- Whether the setter can fail. -/
def PropertyModel.isChecked (p : PropertyModel) : Bool := p.validation.isSome

/-- The documentation of the getter. -/
def PropertyModel.getterDoc (p : PropertyModel) : String :=
  p.doc.getD s!"Gets the `{p.name}` property."

/-- The documentation of the setter. -/
def PropertyModel.setterDoc (p : PropertyModel) : String :=
  s!"Sets the `{p.name}` property." ++ match p.doc with
    | some doc => "\n\n" ++ doc
    | none => ""

/-- A computed property. -/
structure ComputedModel where
  /-- The name of the property and of the method that computes it. -/
  name : String
  /-- The type as text. -/
  ty : String
  /-- Whether its type refers to a parameter of the bean. -/
  generic : Bool

/-- Resolves a computed property of a bean with the type parameters `params`. -/
def ComputedModel.resolve (d : DerivedDecl) (params : List String) : ComputedModel :=
  ⟨d.name.name, d.ty.render, d.ty.mentions params⟩

/-- The type, read from its text. -/
def ComputedModel.ty? (d : ComputedModel) : Option Ty := readTy? d.ty

end Beans
