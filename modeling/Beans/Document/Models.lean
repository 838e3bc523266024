import Beans.Document.Basic
import Beans.Files.Run
import Beans.Layout.Style
import Beans.Model.Bean
import Beans.Region.Marker

/-!
# Documents of models

The models of beans that code is generated from, and the errors of the generator, as documents.

## Main definitions

* `BeanModel.described`, `PropertyModel.document`, `BuilderField.document` — models.
-/

set_option autoImplicit false

namespace Beans

/-! ### Errors -/

instance : ToDocument ProfileError where
  toDocument e := .ofError (match e with
    | .unknownProfile _ => "UnknownProfile"
    | _ => "Config") e.message

instance : ToDocument Layout.StyleFault where
  toDocument e := .ofError (match e with
    | .indent _ => "Indent"
    | .eol _ => "Eol") e.message

/-- A fault with its line. -/
instance : ToDocument FaultAt := ⟨fun f => .list [f.line, f.message]⟩

/-- The error of a declaration with faults. -/
def faultyBean (faults : List FaultAt) : Document := .record [("error", "Bean"), ("errors", faults)]

instance : ToDocument FaultyMarker where
  toDocument e := .record [("error", "Region"), ("line", e.line), ("message", e.fault.message)]

instance : ToDocument Files.RunFault where
  toDocument
    | .source file .unreadable => .ofError "Syntax" file
    | .source file fault => .ofError "Source" (Files.RunFault.source file fault).message
    | .access file fault => .ofError "Io" (Files.RunFault.access file fault).message

/-! ### Models -/

instance : ToDocument Tag := ⟨fun t => .list [t.name, t.attributes]⟩

/-- A builder field, with the code that it makes of some names. -/
def BuilderField.document (b : BuilderField) : Document :=
  .record
    [("build", b.buildValue "self.f" "missing()"), ("collect", b.collect),
      ("copy", b.copyFromBean "bean.f"), ("declared", b.declaredType), ("init", b.init),
      ("initial", b.initial), ("param", b.param), ("required", b.isRequired),
      ("store", b.store "p"), ("ty", b.ty)]

instance : ToDocument BuilderField := ⟨BuilderField.document⟩

/-- A property. -/
def PropertyModel.document (p : PropertyModel) : Document :=
  .record
    [("alias", p.otherName), ("builder", p.builder), ("doc", p.doc), ("equals", p.equals.name),
      ("exposed", p.shown), ("field", p.field), ("field_ty", p.fieldTyText),
      ("generic", p.generic), ("getter", p.getter.debug), ("getter_doc", p.getterDoc),
      ("name", p.name), ("readable", p.getter.isReadable), ("setter", p.setter.debug),
      ("setter_doc", p.setterDoc), ("setter_name", p.setterName), ("tags", p.tags),
      ("to_string", p.toText.name), ("ty", p.ty), ("validation", p.validation.map Validation.name),
      ("writable", p.setter.isWritable)]

instance : ToDocument PropertyModel := ⟨PropertyModel.document⟩

/-- The implementations that are generated. -/
def GeneratedTraits.document (g : GeneratedTraits) : Document :=
  .record
    [("Clone", g.clone), ("Display", g.display), ("Eq", g.eq), ("Hash", g.hash),
      ("PartialEq", g.partialEq)]

/-- A computed property. -/
instance : ToDocument ComputedModel := ⟨fun c => .list [c.name, c.ty, c.generic]⟩

instance : ToDocument BeanParameter := ⟨fun p => .list [p.name, p.bounds]⟩

/-- What there is to say of a bean, by names. -/
def BeanModel.described (b : BeanModel) : List (String × Document) :=
  [("builder_ty", b.builderTy), ("cache_hash_code", b.cacheHash), ("derived", b.computed),
    ("doc", b.doc), ("factory", b.factory), ("fields", b.fields),
    ("generates", b.generates.document), ("has_builder", b.hasBuilder),
    ("immutable", b.immutable), ("meta_ty", b.metaTy), ("name", b.name), ("params", b.params),
    ("parent", b.parent.map fun p => (p.field, p.tyText)), ("plain_fields", b.plainFields),
    ("properties", b.properties), ("root", b.isRoot),
    ("scopes", [b.constructorVisibility, b.metaVisibility, b.builderVisibility]),
    ("self_ty", b.selfTy), ("style", b.style.name), ("tags", b.tags), ("vis", b.visibility),
    ("where", b.conditions), ("where_text", b.conditionsText)]

end Beans
