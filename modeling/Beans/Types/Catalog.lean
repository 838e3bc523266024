import Beans.Types.Basic

/-!
# The catalog of types

The types that a text can name: the built-in ones, and those that were added. The first type added
under a name stays.

## Main definitions

* `builtin?`, `builtin` — the built-in types.
* `Catalog` — the types that were added.
* `Catalog.intern`, `Catalog.find?` — adding and finding.
-/

set_option autoImplicit false

namespace Beans

/-- The names of the primitive types. -/
def primitiveNames : List String :=
  ["bool", "char", "i8", "i16", "i32", "i64", "i128", "isize", "u8", "u16", "u32", "u64", "u128",
    "usize", "f32", "f64"]

/-- The names of the built-in types that have no parameters and are not primitive. -/
def plainNames : List String := ["Any", "String", "Value"]

/-- The built-in generic types with their parameters. -/
def genericNames : List (String × List String) :=
  [("Vec", ["T"]), ("VecDeque", ["T"]), ("Option", ["T"]), ("Box", ["T"]), ("Arc", ["T"]),
    ("Rc", ["T"]), ("Cell", ["T"]), ("RefCell", ["T"]), ("HashMap", ["K", "V"]),
    ("BTreeMap", ["K", "V"]), ("HashSet", ["T"]), ("BTreeSet", ["T"]), ("Grid", ["V"])]

/-- The built-in type of a name. -/
def builtin? (name : String) : Option TypeInfo :=
  if primitiveNames.contains name then some (.primitive name)
  else if plainNames.contains name then some (.ofName name)
  else (genericNames.lookup name).map (.generic name)

/-- The built-in type of a name, or a new type of that name. -/
def builtin (name : String) : TypeInfo := (builtin? name).getD (.ofName name)

/-- The types that were added, each under its name. -/
structure Catalog where
  /-- The types in the order in which they were added. -/
  types : List TypeInfo

namespace Catalog

/-- Without added types. -/
def empty : Catalog := ⟨[]⟩

/-- The type of a name. -/
def find? (c : Catalog) (name : String) : Option TypeInfo :=
  builtin? name <|> c.types.find? fun t => t.name == name

/-- The type that is known under the name of the given one; a new name is added. -/
def intern (c : Catalog) (t : TypeInfo) : TypeInfo × Catalog :=
  match c.find? t.name with
  | some known => (known, c)
  | none => (t, ⟨c.types ++ [t]⟩)

end Catalog

end Beans
