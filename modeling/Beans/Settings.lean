import Beans.Declaration.Options
import Beans.Layout.Style
import Beans.Profile

/-!
# Settings of a run

What a run of the generator is asked for beyond the declarations themselves.
-/

set_option autoImplicit false

namespace Beans

/-- The settings of a run. -/
structure Settings where
  /-- What a level of nesting is written as. -/
  indent : Layout.Indent := .spaces 4
  /-- What ends a generated line. -/
  eol : Layout.Eol := .lf
  /-- What the names of fields start with beyond the names of their properties. -/
  lead : String := ""
  /-- The style of beans that name none. -/
  defaultStyle : Option BeanStyle := none
  /-- The idioms of types. -/
  profile : Profile := .standard

/-- A text after another one at its start. -/
def afterStart? (start s : String) : Option String :=
  (Text.stripStart? start.toList s.toList).map String.ofList

/-- A name without the mark of a raw identifier. -/
def withoutRawMark (name : String) : String := (afterStart? "r#" name).getD name

/-- The name of the property in a field: what follows the lead of field names, unless nothing would
remain. -/
def propertyName (field lead : String) : String :=
  let field := withoutRawMark field
  match afterStart? lead field with
  | some rest => if lead.isEmpty || rest.isEmpty then field else rest
  | none => field

end Beans
