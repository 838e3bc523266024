import Beans.Declaration.Fault
import Beans.Profile
import Beans.Syntax.Grammar.Items
import Beans.Text.LowerCase
import Beans.Text.Blank
import Beans.Text.Quoted

/-!
# Accessors and builder fields

How the generated code reads a property, writes it, and holds its value while a bean is built.

## Main definitions

* `Getter`, `Setter` — the ways to read and to write, chosen by a style and the type.
* `BuilderField` — how a builder holds a value.
-/

set_option autoImplicit false

namespace Beans

open Syntax Text

/-! ### Reading -/

/-- How a property is read. -/
inductive Getter
  /-- Not at all. -/
  | unreadable
  /-- By value. -/
  | copy
  | reference
  /-- A text by its slice. -/
  | text
  /-- A list by its slice. -/
  | slice (item : String)
  /-- An optional value by an optional reference. -/
  | option (item : String)
  | clone
  /-- Converted to the type that is shown. -/
  | convert
  /-- By a method of the bean's author. -/
  | manual
deriving DecidableEq, Repr

/-- The text of a getter for developers. -/
def Getter.debug : Getter → String
  | unreadable => "None"
  | copy => "Copy"
  | reference => "Ref"
  | text => "Str"
  | slice item => "Slice(" ++ quoted item ++ ")"
  | option item => "OptionRef(" ++ quoted item ++ ")"
  | clone => "Clone"
  | convert => "Convert"
  | manual => "Manual"

/-- The getter that suits a type. -/
def Getter.forType (ty : Ty) (profile : Profile) : Getter :=
  if ty.isCopyPrimitive then .copy
  else if ty.isNamed "String" then .text
  else
    match ty.isNamed "Vec", ty.isNamed "Option", ty.args with
    | true, _, [item] => .slice item.render
    | _, true, [item] => .option item.render
    | _, _, _ =>
      if ty.name?.any fun name => (profile.find? .getClone name).isSome then .clone else .reference

/-- The getter for a style. `shown` tells whether another type than the field's is shown. -/
def Getter.resolve (style : Option String) (ty : Ty) (shown : Bool) (profile : Profile) :
    Except Fault Getter :=
  match style.map fun s => lowerCase (trim s) with
  | some "" => .ok .unreadable
  | some "manual" => .ok .manual
  | none => .ok (if shown then .convert else forType ty profile)
  | some "smart" => .ok (if shown then .convert else forType ty profile)
  | some "get" => .ok (if shown then .convert else .reference)
  | some "clone" => .ok (if shown then .convert else .clone)
  | some "copy" => .ok (if shown then .convert else .copy)
  | some other => .error (.unknownGetter other)

/-- Whether the property can be read. -/
def Getter.isReadable (g : Getter) : Bool := g != .unreadable

/-- Whether a method is generated. -/
def Getter.hasMethod : Getter → Bool
  | .unreadable | .manual => false
  | .copy | .reference | .text | .slice _ | .option _ | .clone | .convert => true

/-- Result type and body of the generated method. -/
def Getter.method? (g : Getter) (ty field : String) : Option (String × String) :=
  let access := "self." ++ field
  match g with
  | .unreadable | .manual => none
  | .copy => some (ty, access)
  | .reference => some ("&" ++ ty, "&" ++ access)
  | .text => some ("&str", "&" ++ access)
  | .slice item => some ("&[" ++ item ++ "]", "&" ++ access)
  | .option item => some ("Option<&" ++ item ++ ">", access ++ ".as_ref()")
  | .clone => some (ty, access ++ ".clone()")
  | .convert => some (ty, "<" ++ ty ++ ">::from(" ++ access ++ ".clone())")

/-- The expression by which a meta-property reads the value from `bean`. -/
def Getter.metaRead? (g : Getter) (ty field method : String) : Option String :=
  match g with
  | .unreadable => none
  | .copy => some ("bean." ++ field)
  | .manual => some ("bean." ++ method ++ "()")
  | .convert => some ("<" ++ ty ++ ">::from(bean." ++ field ++ ".clone())")
  | .reference | .text | .slice _ | .option _ | .clone => some ("bean." ++ field ++ ".clone()")

/-! ### Writing -/

/-- How a property is written. -/
inductive Setter
  /-- Not at all. -/
  | readOnly
  | assign
  /-- The collection is cleared and extended by the new items. -/
  | clearExtend
  /-- By a method of the bean's author. -/
  | manual
  /-- By the meta-property alone. -/
  | field
  /-- By a statement with places for field and value. -/
  | pattern (statement : String)
deriving DecidableEq, Repr

/-- The text of a setter for developers. -/
def Setter.debug : Setter → String
  | readOnly => "None"
  | assign => "Assign"
  | clearExtend => "ClearExtend"
  | manual => "Manual"
  | field => "Field"
  | pattern statement => "Pattern(" ++ quoted statement ++ ")"

/-- The setter that suits a type. -/
def Setter.forType (ty : Ty) (shown : Bool) : Setter :=
  if ty.isExtendable && !shown then .clearExtend else .assign

/-- A text without the semicolons at its end. -/
def withoutSemicolons (s : String) : String :=
  String.ofList (s.toList.reverse.dropWhile (· == ';')).reverse

/-- The setter for a style, which may be a statement. -/
def Setter.resolve (style : Option String) (ty : Ty) (shown : Bool) : Except Fault Setter :=
  match style.map trim with
  | none => .ok (forType ty shown)
  | some style =>
    if contains style "$" then
      if contains style "$value" then .ok (.pattern (withoutSemicolons style))
      else .error (.setterWithoutValue style)
    else
      let collection : Except Fault Setter :=
        if ty.isExtendable && !shown then .ok .clearExtend else .error .setterNeedsCollection
      match lowerCase style with
      | "" => .ok .readOnly
      | "smart" => .ok (forType ty shown)
      | "set" => .ok .assign
      | "clear_extend" => collection
      | "clearextend" => collection
      | "manual" => .ok .manual
      | "field" => .ok .field
      | other => .error (.unknownSetter other)

/-- Whether the property can be written. -/
def Setter.isWritable (s : Setter) : Bool := s != .readOnly

/-- Whether a method is generated. -/
def Setter.hasMethod : Setter → Bool
  | .assign | .clearExtend | .pattern _ => true
  | .readOnly | .manual | .field => false

/-- The statements of the generated method, without the check. -/
def Setter.methodBody (s : Setter) (field param : String) (shown : Bool) : List String :=
  let value := if shown then param ++ ".into()" else param
  match s with
  | .assign => ["self." ++ field ++ " = " ++ value ++ ";"]
  | .clearExtend =>
      ["self." ++ field ++ ".clear();", "self." ++ field ++ ".extend(" ++ value ++ ");"]
  | .pattern statement =>
    [replaceAll "$value" value (replaceAll "$field" ("self." ++ field) statement) ++ ";"]
  | .readOnly | .manual | .field => []

/-- The lines by which a meta-property writes `value` into `bean`; the last one is the result.
`check` is the statement that checks the value, `fallible` tells whether the method can fail. `α`
is the type of texts. -/
def Setter.metaWrite? {α : Type} [Coe String α] (s : Setter) (field method : String)
    (check : Option α) (fallible shown : Bool) : Option (List α) :=
  match s with
  | .readOnly => none
  | .manual => some [↑("bean." ++ method ++ "(value)")]
  | .field =>
    let value := if shown then "value.into()" else "value"
    some (check.toList ++ [↑("bean." ++ field ++ " = " ++ value ++ ";"), ↑"Ok(())"])
  | .assign | .clearExtend | .pattern _ =>
    if fallible then some [↑("bean." ++ method ++ "(value)")]
    else some [↑("bean." ++ method ++ "(value);"), ↑"Ok(())"]

/-! ### Building -/

/-- How a builder holds the value of a property. -/
structure BuilderField where
  /-- The type of the value. -/
  ty : String
  /-- The initial value; without one the value is required. -/
  init : Option String
  /-- The type of the parameter of the fluent method. -/
  param : String
  /-- The fluent method collects items. -/
  collect : Bool
  /-- From builder value to bean value, with a place for the value. -/
  toImmutable : String
  /-- From bean value to builder value, with a place for the value. -/
  toMutable : String
deriving DecidableEq, Repr

/-- The builder field for a type, or for another type that is asked for. -/
def BuilderField.resolve (fieldTy : Ty) (asked : Option Ty) (profile : Profile) : BuilderField :=
  let raw := fieldTy.name?.getD ""
  let generics := fieldTy.argsText
  let ty := match asked, profile.find? .builderType raw with
    | some asked, _ => asked.render
    | none, some pattern => expand pattern "" generics
    | none, none => fieldTy.render
  let read := readTy? ty
  let builderRaw := (read.bind Ty.name?).getD raw
  let builderGenerics := (read.map Ty.argsText).getD ""
  let varargs := profile.find? .varargs builderRaw
  { ty
    init := (profile.find? .builderInit builderRaw).map fun pattern =>
      expand pattern "" builderGenerics
    param := match varargs with
      | some pattern => expand pattern "" builderGenerics
      | none => ty
    collect := varargs.isSome
    toImmutable := match profile.find? .toImmutable raw with
      | some pattern => expand pattern "$value" generics
      | none => "$value"
    toMutable := match profile.find? .toMutable raw with
      | some pattern => expand pattern "$value" generics
      | none => "$value.clone()" }

/-- Whether a value has to be supplied. -/
def BuilderField.isRequired (b : BuilderField) : Bool := b.init.isNone

/-- The declared type of the field. -/
def BuilderField.declaredType (b : BuilderField) : String :=
  if b.isRequired then "Option<" ++ b.ty ++ ">" else b.ty

/-- The initial value of the field. -/
def BuilderField.initial (b : BuilderField) : String := b.init.getD "None"

/-- What the fluent method stores for its parameter. -/
def BuilderField.store (b : BuilderField) (param : String) : String :=
  let value := if b.collect then param ++ ".into_iter().collect()" else param
  if b.isRequired then "Some(" ++ value ++ ")" else value

/-- The bean value from the builder field `access`; `missing` is the error for a value that was
never supplied. -/
def BuilderField.buildValue (b : BuilderField) (access missing : String) : String :=
  let value := if b.isRequired then access ++ ".ok_or_else(|| " ++ missing ++ ")?" else access
  replaceAll "$value" value b.toImmutable

/-- The builder value from the bean field `access`. -/
def BuilderField.copyFromBean (b : BuilderField) (access : String) : String :=
  let value := replaceAll "$value" access b.toMutable
  if b.isRequired then "Some(" ++ value ++ ")" else value

end Beans
