import Beans.Text.Search

/-!
# Tags

Notes on beans and properties that a program can read back: a name with keys and values.
-/

set_option autoImplicit false

namespace Beans

open Text

/-- An annotation: a name with keys and values. -/
structure Tag where
  /-- The name. -/
  name : String
  /-- The keys with their values, in the order of the declaration. -/
  attributes : List (String × String)
deriving DecidableEq, Repr

namespace Tag

/-- The value of a key; the first one counts. -/
def attribute? (t : Tag) (key : String) : Option String := t.attributes.lookup key

/-- The text: the name, and the pairs in parentheses. -/
def display (t : Tag) : String :=
  if t.attributes.isEmpty then t.name
  else t.name ++ "(" ++ joinWith ", " (t.attributes.map fun (k, v) => k ++ "=" ++ v) ++ ")"

/-- The first tag of a name. -/
def find? (tags : List Tag) (name : String) : Option Tag := tags.find? fun t => t.name == name

end Tag

end Beans
