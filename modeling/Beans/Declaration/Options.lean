import Beans.Property.Style
import Beans.Property.Tag
import Beans.Syntax.Grammar.Items
import Beans.Text.Blank
import Beans.Text.LowerCase

/-!
# Options of a declaration

The choices that the attributes of a bean and of its properties can make, and the words that they
are made by. The case of a word does not matter.
-/

set_option autoImplicit false

namespace Beans

open Text

/-- The overall shape of a bean's meta-bean. -/
inductive BeanStyle
  /-- A typed meta-bean; implementations that the bean has are left out. -/
  | smart
  /-- A typed meta-bean; every implementation is generated. -/
  | full
  /-- A table fed by a constructor. -/
  | light
  /-- A table fed by a supplier of builders. -/
  | minimal
deriving DecidableEq, Repr, Inhabited

/-- The name of a style. -/
def BeanStyle.name : BeanStyle → String
  | .smart => "Smart"
  | .full => "Full"
  | .light => "Light"
  | .minimal => "Minimal"

/-- The style by its word. -/
def BeanStyle.ofWord? (word : String) : Option BeanStyle :=
  match lowerCase word with
  | "smart" => some .smart
  | "full" => some .full
  | "light" => some .light
  | "minimal" => some .minimal
  | _ => none

/-- The word for a style. -/
def BeanStyle.word : BeanStyle → String
  | .smart => "smart"
  | .full => "full"
  | .light => "light"
  | .minimal => "minimal"

/-- Whether a style has a typed meta-bean. -/
def BeanStyle.isTyped : BeanStyle → Bool
  | .smart | .full => true
  | .light | .minimal => false

/-- The visibility of a generated item. -/
inductive Scope
  /-- That of the bean, and none for constructors. -/
  | smart
  | hidden
  | package
  | everywhere
deriving DecidableEq, Repr, Inhabited

/-- The name of a scope. -/
def Scope.name : Scope → String
  | .smart => "Smart"
  | .hidden => "Private"
  | .package => "Package"
  | .everywhere => "Public"

/-- The scope by its word. -/
def Scope.ofWord? (word : String) : Option Scope :=
  match lowerCase word with
  | "smart" => some .smart
  | "private" => some .hidden
  | "package" => some .package
  | "public" => some .everywhere
  | _ => none

/-- Whether copying is generated. -/
inductive CloneStyle
  /-- Unless the bean derives it. -/
  | smart
  | generate
  | omit
deriving DecidableEq, Repr, Inhabited

/-- The name of a choice. -/
def CloneStyle.name : CloneStyle → String
  | .smart => "Smart"
  | .generate => "Generate"
  | .omit => "Omit"

/-- The choice by its word. -/
def CloneStyle.ofWord? (word : String) : Option CloneStyle :=
  match lowerCase word with
  | "smart" => some .smart
  | "generate" => some .generate
  | "omit" => some .omit
  | _ => none

/-- The choice by its word. -/
def PartStyle.ofWord? (word : String) : Option PartStyle :=
  match lowerCase word with
  | "smart" => some .smart
  | "omit" => some .omit
  | "field" => some .field
  | _ => none

/-- A check of a property's value. -/
inductive Validation
  /-- An optional value is there. -/
  | notNull
  /-- A text or collection is not empty. -/
  | notEmpty
  /-- A text has a character that is not blank. -/
  | notBlank
  /-- A function of the bean's author. -/
  | custom (path : Syntax.Path)

/-- The name of a check, or the path of its function. -/
def Validation.name : Validation → String
  | .notNull => "NotNull"
  | .notEmpty => "NotEmpty"
  | .notBlank => "NotBlank"
  | .custom path => path.render

/-- The check by its word, or by the path of a function. -/
def Validation.ofWord? (word : String) : Option Validation :=
  match lowerCase word with
  | "not_null" => some .notNull
  | "notnull" => some .notNull
  | "not_empty" => some .notEmpty
  | "notempty" => some .notEmpty
  | "not_blank" => some .notBlank
  | "notblank" => some .notBlank
  | _ => (Syntax.readPath? word).map .custom

/-- The function of the library that makes a check. -/
def Validation.function? : Validation → Option String
  | .notNull => some "not_null"
  | .notEmpty => some "not_empty"
  | .notBlank => some "not_blank"
  | .custom _ => none

/-- The characters of a tag's name. -/
def isTagChar (c : Char) : Bool := isAlphanumeric c || c == '_' || c == '.'

/-- A text without the single quotes at both ends. -/
def trimQuotes (cs : List Char) : List Char :=
  let front := cs.dropWhile (· == '\'')
  (front.reverse.dropWhile (· == '\'')).reverse

/-- A key with its value, written with an equals sign between them. -/
def tagPair? (pair : List Char) : Option (String × String) := do
  let (key, value) ← splitOnce '=' pair
  let key := trim (String.ofList key)
  if key.isEmpty then none
  let value := String.ofList (trimQuotes (trim (String.ofList value)).toList)
  some (key, value)

/-- A tag by its text: a name, or a name with pairs in parentheses. -/
def Tag.ofText? (text : String) : Option Tag := do
  let chars := (trim text).toList
  let (name, rest) := match splitOnce '(' chars with
    | some (before, after) => (before, some after)
    | none => (chars, none)
  let name := trim (String.ofList name)
  if name.isEmpty || !name.toList.all isTagChar then none
  match rest with
  | none => some ⟨name, []⟩
  | some rest =>
    let body ← stripEnd? [')'] rest
    let pieces := (cutWhere (· == ',') body).map fun p => (trim (String.ofList p)).toList
    let pairs ← (pieces.filter fun p => !p.isEmpty).mapM tagPair?
    some ⟨name, pairs⟩

/-- Whether a hint about the hierarchy makes a bean immutable. -/
def isImmutableHierarchy (hint : Option String) : Bool :=
  hint.any fun h => asciiLower h == "immutable"

end Beans
