import Beans.Text.Blank
import Beans.Text.Letter
import Beans.Types.Resolved

/-!
# Types from text

A type is a name of the catalog, its arguments between angle brackets, and a pair of brackets for
each array. Names are identifiers joined by two colons. Blanks may stand before a type, around the
angle brackets and the commas, and around pairs of brackets, but not inside names and pairs.

## Main definitions

* `ResolvedType.parse` — the type that a text names.

## Implementation notes

`readType` and `readArguments` take a bound on the depth of nesting. Every level of nesting begins
with a bracket or a comma of its own, so the length of the text is enough.
-/

set_option autoImplicit false

namespace Beans

open Text

/-- Why a text is not a type. -/
inductive TypeFault
  /-- The catalog does not have the name. -/
  | unknown (name : String)
  | expectedName
  | expectedCommaOrEnd
  | expectedBracket
  /-- A character follows the type, at its distance in bytes from the start. -/
  | unexpected (c : Char) (position : Nat)
  /-- The number of arguments is wrong. -/
  | arity (error : BeanError)

/-- The error for a text that is not a type. -/
def TypeFault.toError (input : String) : TypeFault → BeanError
  | unknown name => .invalidType input s!"unknown type '{name}'"
  | expectedName => .invalidType input "expected type name"
  | expectedCommaOrEnd => .invalidType input "expected ',' or '>'"
  | expectedBracket => .invalidType input "expected ']'"
  | unexpected c position => .invalidType input s!"unexpected '{c}' at {position}"
  | arity error => error

/-- A reader returns a result with the characters after it, unless there is a fault. -/
abbrev TypeRead := Except TypeFault

/-- Whether a character begins an identifier. -/
def startsName (c : Char) : Bool := isAlphabetic c || c == '_'

/-- Whether a character continues an identifier. -/
def continuesName (c : Char) : Bool := isAlphanumeric c || c == '_'

/-- The characters of a name after its first one, and what follows. A pair of colons has to be
followed by an identifier. -/
def readNameRest : List Char → TypeRead (List Char × List Char)
  | ':' :: ':' :: c :: rest =>
    if startsName c then do
      let (name, rest) ← readNameRest rest
      return (':' :: ':' :: c :: name, rest)
    else .error .expectedName
  | [':', ':'] => .error .expectedName
  | c :: rest =>
    if continuesName c then do
      let (name, rest) ← readNameRest rest
      return (c :: name, rest)
    else return ([], c :: rest)
  | [] => return ([], [])

/-- A name, and what follows. -/
def readName : List Char → TypeRead (String × List Char)
  | c :: rest =>
    if startsName c then do
      let (name, rest) ← readNameRest rest
      return (String.ofList (c :: name), rest)
    else .error .expectedName
  | [] => .error .expectedName

/-- A type under the arrays whose brackets come next, and what follows. -/
def readArrays (t : ResolvedType) : List Char → TypeRead (ResolvedType × List Char)
  | [] => return (t, [])
  | c :: rest =>
    if c = '[' then
      match rest with
      | ']' :: rest => readArrays t.toArray rest
      | _ => .error .expectedBracket
    else if isBlank c then readArrays t rest
    else return (t, c :: rest)

/-- A type with its arguments, if their number is right, under the arrays whose brackets come next,
and what follows. -/
def readArraysOf (raw : TypeInfo) (args : List ResolvedType) (cs : List Char) :
    TypeRead (ResolvedType × List Char) :=
  match ResolvedType.of? raw args with
  | .error e => .error (.arity e)
  | .ok t => readArrays t cs

mutual

/-- A type, and what follows. -/
def readType (c : Catalog) : Nat → List Char → TypeRead (ResolvedType × List Char)
  | 0, _ => .error .expectedName
  | depth + 1, cs => do
    let (name, rest) ← readName (dropBlank cs)
    match c.find? name with
    | none => .error (.unknown name)
    | some raw =>
      match dropBlank rest with
      | '<' :: rest => do
        let (args, rest) ← readArguments c depth rest
        readArraysOf raw args rest
      | rest => readArraysOf raw [] rest

/-- One or more types between commas up to the closing bracket, and what follows. -/
def readArguments (c : Catalog) : Nat → List Char → TypeRead (List ResolvedType × List Char)
  | 0, _ => .error .expectedName
  | depth + 1, cs => do
    let (arg, rest) ← readType c depth cs
    match dropBlank rest with
    | ',' :: rest =>
      let (args, rest) ← readArguments c depth rest
      return (arg :: args, rest)
    | '>' :: rest => return ([arg], rest)
    | _ => .error .expectedCommaOrEnd

end

/-- The type of a text, or why there is none. -/
def parseType (c : Catalog) (text : String) : Except TypeFault ResolvedType := do
  let cs := text.toList
  let (t, rest) ← readType c (2 * cs.length + 2) cs
  match dropBlank rest with
  | [] => return t
  | c :: rest =>
      .error (.unexpected c (text.utf8ByteSize - (String.ofList (c :: rest)).utf8ByteSize))

/-- The type that a text names. -/
def ResolvedType.parse (c : Catalog) (text : String) : Except BeanError ResolvedType :=
  (parseType c text).mapError (TypeFault.toError text)

end Beans
