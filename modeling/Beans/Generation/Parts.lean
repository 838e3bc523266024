import Beans.Generation.Fragment
import Beans.Model.Bean
import Beans.Text.Quoted

/-!
# Parts of generated code

The pieces that several generated items share: headers of implementations, checks of values,
annotations, and the expressions for declared types.
-/

set_option autoImplicit false

namespace Beans

open Syntax Layout

/-! ### Blocks and functions -/

/-- Lines one level deeper between an opening and a closing line. -/
def block (opening : Fragment) (body : CodeDraft) (closing : Fragment) : CodeDraft :=
  .enter opening :: body ++ [.leave closing]

/-- Lines in braces behind a head. -/
def braced (head : Fragment) (body : CodeDraft) : CodeDraft := block (head ++ " \x7b") body "\x7d"

/-- A generated function. -/
structure Function where
  /-- The documentation, paragraph by paragraph. -/
  docs : List String := []
  /-- The attributes. -/
  attributes : List String := []
  /-- The visibility. -/
  visibility : String := ""
  /-- The name as it is written. -/
  name : String
  /-- What follows the name, up to the body. -/
  signature : Fragment
  /-- The body. -/
  body : CodeDraft

/-- A function as a draft. -/
def Function.draft (f : Function) : CodeDraft :=
  f.docs.map (fun text => .doc text) ++ f.attributes.map (fun a => .line a) ++
    braced (f.visibility ++ "fn " ++ f.name ++ f.signature) f.body

/-- Functions as a draft, with a blank line between neighbours. -/
def functionsDraft : List Function → CodeDraft
  | [] => []
  | [f] => f.draft
  | f :: rest => f.draft ++ .blank :: functionsDraft rest

/-! ### Names and types -/

/-- A name as an identifier, raw if it is a keyword. -/
def identifierText (name : String) : String := if isIdentifier name then name else "r#" ++ name

/-- A type as an expression: one with arguments stands in angle brackets. -/
def typeInExpression (ty : String) : String :=
  if Text.contains ty "<" then "<" ++ ty ++ ">" else ty

/-- The shared pointer. -/
def sharedPointer : String := "::std::sync::Arc"

/-! ### Headers -/

/-- The bounds that generated code asks of every type parameter. -/
def BeanModel.paramBounds (b : BeanModel) : List Fragment :=
  if b.immutable then [RuntimeItem.propertyType] else [RuntimeItem.propertyType, "Default"]

/-- The type parameters with their own bounds and some more, in angle brackets. -/
def BeanModel.boundedParams (b : BeanModel) (more : List Fragment) : Fragment :=
  if b.params.isEmpty then ⟨[]⟩
  else
    let bounded (p : BeanParameter) : Fragment :=
      let bounds := (if p.bounds.isEmpty then [] else [(p.bounds : Fragment)]) ++ more
      if bounds.isEmpty then p.name else p.name ++ ": " ++ Fragment.joinWith " + " bounds
    "<" ++ Fragment.joinWith ", " (b.params.map bounded) ++ ">"

/-- The type parameters of a generated implementation. The bound on them is imported in any case. -/
def BeanModel.implGenerics (b : BeanModel) : Fragment :=
  RuntimeItem.propertyType.needed ++ b.boundedParams b.paramBounds

/-- The first line of an implementation, of a trait or inherent. -/
def BeanModel.implHeader (b : BeanModel) (trait : Option Fragment) (ty : String) : Fragment :=
  let trait : Fragment := match trait with
    | some trait => trait ++ " for "
    | none => ""
  "impl" ++ b.implGenerics ++ " " ++ trait ++ ty ++ b.conditionsText ++ " \x7b"

/-- An implementation of a trait, or an inherent one. -/
def BeanModel.implBlock (b : BeanModel) (trait : Option Fragment) (ty : String) (body : CodeDraft) :
    CodeDraft :=
  block (b.implHeader trait ty) body "\x7d"

/-! ### Expressions -/

/-- The statement that checks a value and names the property in its error. -/
def checkStatement (rule : Validation) (value property : String) : Fragment :=
  let call (function : Fragment) : Fragment :=
    function ++ "(&" ++ value ++ ", " ++ Text.quoted property ++ ")?;"
  match rule with
  | .custom path => call path.render
  | .notNull | .notEmpty | .notBlank =>
    call (RuntimeItem.utils.named ++ "::" ++ (rule.function?.getD ""))

/-- The expression for an annotation. -/
def annotationExpression (tag : Tag) : Fragment :=
  tag.attributes.foldl
    (fun out (key, value) =>
      out ++ ".with(" ++ Text.quoted key ++ ", " ++ Text.quoted value ++ ")")
    (RuntimeItem.tag.named ++ "::new(" ++ Text.quoted tag.name ++ ")")

/-- The expression for a list of annotations. -/
def annotationsExpression (tags : List Tag) : Fragment :=
  if tags.isEmpty then "Vec::new()"
  else "vec![" ++ Fragment.joinWith ", " (tags.map annotationExpression) ++ "]"

/-- The expression for a declared type: a type parameter is a variable of the declaring type
`declarer`, and a type with arguments that refers to one keeps its arguments. -/
def typeExpression (params : List String) (declarer : String) (ty : Ty) : Fragment :=
  let text := ty.render
  if params.contains text then
    RuntimeItem.genericType.named ++ "::variable(" ++ declarer ++ ", " ++ Text.quoted text ++ ")"
  else if ty.mentions params && !ty.args.isEmpty then
    RuntimeItem.genericType.named ++ "::parameterized(<" ++ text ++ " as " ++
      RuntimeItem.propertyType ++ ">::type_info(), vec![" ++
      Fragment.joinWith ", " (ty.args.attach.map fun ⟨arg, _⟩ => typeExpression params declarer arg)
      ++ "])"
  else "<" ++ text ++ " as " ++ RuntimeItem.propertyType ++ ">::generic_type()"
termination_by ty
decreasing_by exact Ty.sizeOf_lt_of_mem_args ‹_›

/-- The name of the bean as a text literal. -/
def BeanModel.nameLiteral (b : BeanModel) : String := Text.quoted b.name

/-- The expression for the full name of the bean. -/
def BeanModel.fullName (b : BeanModel) : String :=
  "concat!(module_path!(), \"::" ++ b.name ++ "\")"

end Beans
