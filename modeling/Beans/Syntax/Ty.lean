import Beans.Syntax.Token
import Beans.Text.Letter
import Beans.Text.Search

/-!
# Types

Types, paths and bounds as they are written in source, with the text that a person would write for
them and the questions that a generator asks about them.

## Main definitions

* `Ty`, `Path`, `GenericArg`, `Bound` — the forms of types.
* `Ty.render` — a type as text.
* `Ty.name?`, `Ty.args` — name and type arguments of the last segment of a path type.
* `Ty.mentions` — whether a type refers to one of some names.
-/

set_option autoImplicit false

namespace Beans.Syntax

mutual

/-- A type. -/
inductive Ty where
  /-- A path without a leading type in angle brackets. -/
  | path (path : Path)
  /-- A reference with an optional lifetime. -/
  | reference (lifetime : Option String) (mutable : Bool) (target : Ty)
  | slice (item : Ty)
  /-- An array with the tokens of its length. -/
  | array (item : Ty) (length : List Tok)
  | tuple (items : List Ty)
  | paren (inner : Ty)
  | never
  /-- A trait object; its keyword may be left out in source. -/
  | object (bounds : List Bound)
  | anonymous (bounds : List Bound)
  /-- A path behind a type in angle brackets: the name of its last segment, and its tokens. -/
  | qualified (last : String) (toks : List Tok)
  /-- Any other form, by its tokens. -/
  | other (toks : List Tok)

/-- Segments that are separated by double colons. -/
inductive Path where
  | mk (rooted : Bool) (segments : List Segment)

/-- A name with its arguments. -/
inductive Segment where
  | mk (name : String) (args : SegmentArgs)

/-- The arguments of a segment. -/
inductive SegmentArgs where
  | none
  | angle (args : List GenericArg)
  | call (inputs : List Ty) (output : Option Ty)

/-- An argument in angle brackets. -/
inductive GenericArg where
  | type (ty : Ty)
  | lifetime (name : String)
  /-- The type of an associated item. -/
  | assoc (name : String) (ty : Ty)
  /-- Any other form, by its tokens. -/
  | other (toks : List Tok)

/-- A bound of a type. -/
inductive Bound where
  /-- A trait, which may be marked as optional. -/
  | trait (relaxed : Bool) (path : Path)
  | lifetime (name : String)
  /-- A trait whose methods are constant, by its tokens. -/
  | constant (toks : List Tok)
  /-- The parameters that an anonymous type depends on, by their tokens. -/
  | captures (toks : List Tok)

end

instance : Inhabited Ty := ⟨.never⟩

/-- Removes the token spacing from a text of tokens. -/
def tidy (text : String) : String :=
  [(" :: ", "::"), (":: ", "::"), (" ::", "::"), (" : ", ": "), ("pub (", "pub("), ("< ", "<"),
    (" <", "<"), (" >", ">"), (" ,", ","), ("& ", "&"), ("( ", "("), (" )", ")"), (" ;", ";"),
    (" .", "."), (". ", ".")].foldl (fun out (old, new) => Text.replaceAll old new out) text

mutual

/-- A type as text. -/
def Ty.render : Ty → String
  | .path p => p.render
  | .reference lifetime mutable target =>
    "&" ++ (match lifetime with
      | some name => name ++ " "
      | none => "") ++ (if mutable then "mut " else "") ++ target.render
  | .slice item => "[" ++ item.render ++ "]"
  | .array item length => "[" ++ item.render ++ "; " ++ tidy (showToks length) ++ "]"
  | .tuple items =>
    match renderTys items with
    | [item] => "(" ++ item ++ ",)"
    | texts => "(" ++ Text.joinWith ", " texts ++ ")"
  | .paren inner => "(" ++ inner.render ++ ")"
  | .never => "!"
  | .object bounds => "dyn " ++ Text.joinWith " + " (renderBounds bounds)
  | .anonymous bounds => "impl " ++ Text.joinWith " + " (renderBounds bounds)
  | .qualified _ toks | .other toks => tidy (showToks toks)

/-- A path as text. -/
def Path.render : Path → String
  | .mk rooted segments =>
      (if rooted then "::" else "") ++ Text.joinWith "::" (renderSegments segments)

/-- A segment as text. -/
def Segment.render : Segment → String
  | .mk name args => name ++ args.render

/-- The arguments of a segment as text. -/
def SegmentArgs.render : SegmentArgs → String
  | .none => ""
  | .angle args => "<" ++ Text.joinWith ", " (renderArgs args) ++ ">"
  | .call inputs output =>
    "(" ++ Text.joinWith ", " (renderTys inputs) ++ ")" ++ (match output with
      | some ty => " -> " ++ ty.render
      | none => "")

/-- An argument as text. -/
def GenericArg.render : GenericArg → String
  | .type ty => ty.render
  | .lifetime name => name
  | .assoc name ty => name ++ " = " ++ ty.render
  | .other toks => tidy (showToks toks)

/-- A bound as text. -/
def Bound.render : Bound → String
  | .trait relaxed path => (if relaxed then "?" else "") ++ path.render
  | .lifetime name => name
  | .constant toks | .captures toks => tidy (showToks toks)

/-- Types as texts. -/
def renderTys : List Ty → List String
  | [] => []
  | ty :: rest => ty.render :: renderTys rest

/-- Segments as texts. -/
def renderSegments : List Segment → List String
  | [] => []
  | s :: rest => s.render :: renderSegments rest

/-- Arguments as texts. -/
def renderArgs : List GenericArg → List String
  | [] => []
  | a :: rest => a.render :: renderArgs rest

/-- Bounds as texts. -/
def renderBounds : List Bound → List String
  | [] => []
  | b :: rest => b.render :: renderBounds rest

end

/-- The segments of a path. -/
def Path.segments : Path → List Segment
  | .mk _ segments => segments

/-- The name of a segment. -/
def Segment.name : Segment → String
  | .mk name _ => name

/-- The arguments of a segment. -/
def Segment.args : Segment → SegmentArgs
  | .mk _ args => args

/-- The name of the last segment. -/
def Path.lastName? (p : Path) : Option String := p.segments.getLast?.map Segment.name

/-- Whether no segment of a path has arguments. -/
def Path.isPlain (p : Path) : Bool := p.segments.all fun s => match s.args with
  | .none => true
  | _ => false

/-- The only name of a path that is a plain word. -/
def Path.word? : Path → Option String
  | .mk false [.mk name .none] => some name
  | _ => none

/-- The name of the last segment of a path type, also in parentheses. -/
def Ty.name? : Ty → Option String
  | .path p => p.lastName?
  | .paren inner => inner.name?
  | _ => none

/-- The name of the last segment of a path type, also behind a type in angle brackets. -/
def Ty.lastName? : Ty → Option String
  | .path p => p.lastName?
  | .qualified last _ => some last
  | _ => none

/-- The type arguments of the last segment of a path type. -/
def Ty.args : Ty → List Ty
  | .path p =>
    match p.segments.getLast?.map Segment.args with
    | some (.angle args) => args.filterMap fun
      | .type ty => some ty
      | _ => none
    | _ => []
  | _ => []

/-- A type argument is a smaller type. -/
theorem Ty.sizeOf_lt_of_mem_args {a ty : Ty} (h : a ∈ ty.args) : sizeOf a < sizeOf ty := by
  cases ty with
  | path p =>
    obtain ⟨rooted, segments⟩ := p
    simp only [Ty.args, Path.segments] at h
    split at h
    · next args hs =>
      obtain ⟨s, hs, hargs⟩ := Option.map_eq_some_iff.1 hs
      obtain ⟨arg, harg, ha⟩ := List.mem_filterMap.1 h
      have hmem := List.mem_of_getLast? hs
      have h1 := List.sizeOf_lt_of_mem hmem
      have h2 := List.sizeOf_lt_of_mem harg
      obtain ⟨name, sargs⟩ := s
      simp only [Segment.args] at hargs
      subst hargs
      cases arg with
      | type t =>
        obtain rfl : t = a := by simpa using ha
        simp only [Segment.mk.sizeOf_spec, SegmentArgs.angle.sizeOf_spec,
          GenericArg.type.sizeOf_spec, Ty.path.sizeOf_spec, Path.mk.sizeOf_spec] at *
        omega
      | _ => simp at ha
    · simp at h
  | _ => simp [Ty.args] at h

/-- The type arguments as text. -/
def Ty.argsText (ty : Ty) : String := Text.joinWith ", " (ty.args.map Ty.render)

/-- The primitive types whose values are copied. -/
def copyPrimitives : List String :=
  ["bool", "char", "i8", "i16", "i32", "i64", "i128", "isize", "u8", "u16", "u32", "u64", "u128",
    "usize", "f32", "f64"]

/-- The collections that can be cleared and extended. -/
def extendableNames : List String :=
  ["Vec", "VecDeque", "HashMap", "BTreeMap", "HashSet", "BTreeSet"]

/-- Whether a type is a primitive whose values are copied. -/
def Ty.isCopyPrimitive (ty : Ty) : Bool := ty.name?.any copyPrimitives.contains && ty.args.isEmpty

/-- Whether a type has a name, with any arguments. -/
def Ty.isNamed (ty : Ty) (name : String) : Bool := ty.name? == some name

/-- Whether a type is a collection that can be cleared and extended. -/
def Ty.isExtendable (ty : Ty) : Bool := ty.name?.any extendableNames.contains

/-- Whether a character belongs to a word of a type's text. -/
def isWordChar (c : Char) : Bool := Text.isAlphanumeric c || c == '_'

/-- The words of a type's text. -/
def typeWords (text : String) : List String := Text.splitWhere (fun c => !isWordChar c) text

/-- Whether a type refers to any of some names, at any depth. -/
def Ty.mentions (ty : Ty) (names : List String) : Bool :=
  (typeWords ty.render).any names.contains && !names.isEmpty

end Beans.Syntax
