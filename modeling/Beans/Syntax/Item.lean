import Beans.Syntax.Ty

/-!
# Items

The items of a source file, as far as a generator looks at them: imports, implementations, and
struct declarations with their attributes.
-/

set_option autoImplicit false

namespace Beans.Syntax

/-- What follows the path of an attribute. -/
inductive AttributeArgs where
  | word
  /-- Tokens between delimiters. -/
  | list (delimiter : Delimiter) (toks : List Tok)
  /-- The tokens of a value after an equals sign. -/
  | value (toks : List Tok)

/-- An attribute or an entry of one: a path and what follows it. -/
structure Meta where
  /-- The path. -/
  path : Path
  /-- What follows it. -/
  args : AttributeArgs
  /-- The lines that it stands on. -/
  lines : Lines

/-- An outer attribute. -/
structure Attribute where
  /-- The content of the brackets. -/
  content : Meta
  /-- The lines from its hash sign to its closing bracket. -/
  lines : Lines

/-- Whether the path of an attribute is one given word. -/
def Attribute.isNamed (a : Attribute) (name : String) : Bool := a.content.path.word? == some name

/-- A visibility. -/
inductive Visibility where
  | inherited
  | pub
  /-- A restricted one, by its tokens. -/
  | restricted (toks : List Tok)

/-- Whether a visibility is left out. -/
def Visibility.isInherited : Visibility → Bool
  | .inherited => true
  | .pub | .restricted _ => false

/-- A visibility as text, with a blank after it unless it is empty. -/
def Visibility.render : Visibility → String
  | .inherited => ""
  | .pub => "pub "
  | .restricted toks => tidy (showToks toks) ++ " "

/-- A declared generic parameter. -/
inductive GenericParam where
  | type (name : String) (bounds : List Bound)
  | lifetime
  | const

/-- The generics of a declaration. -/
structure Generics where
  /-- The parameters, each with its first line. -/
  params : List (GenericParam × Nat) := []
  /-- The first line of the angle brackets. -/
  line : Option Nat := none
  /-- The tokens of the conditions on the parameters, with their keyword. -/
  conditions : Option (List Tok) := none

/-- A field of a struct. -/
structure Field where
  /-- The attributes. -/
  attributes : List Attribute
  /-- The visibility. -/
  visibility : Visibility
  /-- The first line of the visibility. -/
  visibilityLine : Nat
  /-- The name, unless the field has a place only. -/
  name : Option String
  /-- The line of the name. -/
  nameLine : Nat
  /-- The type. -/
  ty : Ty
  /-- The first line of the type. -/
  tyLine : Nat
  /-- The first line of the field. -/
  line : Nat

/-- The fields of a struct. -/
inductive Fields where
  /-- Named fields, and the line of the closing brace. -/
  | named (fields : List Field) (closing : Nat)
  | unnamed (fields : List Field)
  | unit

/-- What a declaration of a type holds. -/
inductive DataKind where
  | struct (fields : Fields)
  | enum
  | union

/-- A declaration of a type. -/
structure Declaration where
  /-- The attributes. -/
  attributes : List Attribute
  /-- The visibility. -/
  visibility : Visibility
  /-- The name. -/
  name : String
  /-- The line of the name. -/
  nameLine : Nat
  /-- The generics. -/
  generics : Generics
  /-- What it holds. -/
  data : DataKind
  /-- The lines of the whole declaration. -/
  lines : Lines

/-- The tree of an import. -/
inductive UseTree where
  | path (name : String) (rest : UseTree)
  | name (name : String)
  | rename (name bound : String)
  | glob
  | group (trees : List UseTree)

/-- An item of a file. -/
inductive Item where
  | declaration (d : Declaration)
  /-- An import, and the line that it ends on. -/
  | use (tree : UseTree) (lastLine : Nat)
  /-- An implementation: the line of its keyword, the trait and the type. -/
  | impl (line : Nat) (trait : Option Path) (ty : Ty)
  | other

/-- The items of a file. -/
abbrev SourceFile := List Item

end Beans.Syntax
