import Beans.Settings

/-!
# Arguments of the command line

One path, options with values, and flags. An option stands before its value or is joined to it by an
equals sign; a short one may also be joined to it directly, and short flags may be written together.
Nothing can be given twice, and after two dashes every argument is a path.

## Main definitions

* `Request` — what the arguments ask for.
* `Asked.ofArguments` — reads arguments.
-/

set_option autoImplicit false

namespace Beans.Command

open Text

/-- The options and flags. -/
inductive Switch
  | recursive
  | indent
  | eol
  | lead
  | profile
  | config
  | style
  | verbose
  | dry
  | help
  | version
deriving DecidableEq, Repr

/-- The switch of a long name. -/
def Switch.ofLong? : String → Option Switch
  | "recursive" => some .recursive
  | "indent" => some .indent
  | "eol" => some .eol
  | "prefix" => some .lead
  | "profile" => some .profile
  | "config" => some .config
  | "style" => some .style
  | "verbose" => some .verbose
  | "no-write" => some .dry
  | "help" => some .help
  | "version" => some .version
  | _ => none

/-- The switch of a letter. -/
def Switch.ofShort? : Char → Option Switch
  | 'R' => some .recursive
  | 'v' => some .verbose
  | 'h' => some .help
  | 'V' => some .version
  | _ => none

/-- Whether a switch is an option with a value. -/
def Switch.takesValue : Switch → Bool
  | .indent | .eol | .lead | .profile | .config | .style | .verbose => true
  | .recursive | .dry | .help | .version => false

/-- What a run is asked for. -/
structure Request where
  /-- The path to the files. -/
  path : Option String := none
  /-- Whether folders below are searched too. -/
  recursive : Bool := false
  /-- What a level of nesting is written as. -/
  indent : Layout.Indent := .spaces 4
  /-- What ends a generated line. -/
  eol : Layout.Eol := .lf
  /-- What the names of fields start with. -/
  lead : String := ""
  /-- The name of the profile. -/
  profile : String := "std"
  /-- The file with a profile to lay over it. -/
  config : Option String := none
  /-- The style of beans that name none. -/
  style : Option BeanStyle := none
  /-- How much is told about the run. -/
  verbosity : Nat := 0
  /-- Whether nothing is written. -/
  dry : Bool := false
  /-- The switches that were given. -/
  given : List Switch := []

/-- The largest verbosity. -/
def verbosityLimit : Nat := 3

/-- The verbosity in a text. -/
def verbosity? (value : String) : Option Nat :=
  match value.toList with
  | '-' :: '+' :: _ => none
  | '-' :: digits => decimalNat? 0 digits
  | digits => decimalNat? verbosityLimit digits

/-- A text that is not empty. -/
def filled? (value : String) : Option String := if value.isEmpty then none else some value

/-- The request with one more switch. A value that cannot be read and a repeated switch are
wrong. -/
def Request.take? (r : Request) (s : Switch) (value : String) : Option Request :=
  if r.given.contains s then none
  else
    let r := { r with given := s :: r.given }
    match s with
    | .recursive => some { r with recursive := true }
    | .dry => some { r with dry := true }
    | .indent => (Layout.Indent.ofWord value).toOption.map fun indent => { r with indent }
    | .eol => (Layout.Eol.ofWord value).toOption.map fun eol => { r with eol }
    | .lead => some { r with lead := value }
    | .profile => some { r with profile := value }
    | .config => (filled? value).map fun config => { r with config := some config }
    | .style => (BeanStyle.ofWord? value).map fun style => { r with style := some style }
    | .verbose => (verbosity? value).map fun verbosity => { r with verbosity }
    | .help | .version => some r

/-- The request with its path; there can be one only. -/
def Request.takePath? (r : Request) (path : String) : Option Request :=
  if r.path.isSome then none
  else (filled? path).map fun path => { r with path := some path }

/-- What arguments ask for. -/
inductive Asked
  | run (request : Request) (path : String)
  | help
  | version
  /-- The arguments are wrong. -/
  | wrong

/-- The end of the arguments: there has to be a path. -/
def Request.finish (r : Request) : Asked :=
  match r.path with
  | some path => .run r path
  | none => .wrong

/-- Whether an argument can be the value of an option before it. -/
def isValue (argument : String) : Bool := argument == "-" || !argument.startsWith "-"

/-- Short switches that are written together: the request with them and, if the last of them still
waits for its value, that switch. -/
def takeShorts : Request → List Char → Option (Request × Option Switch)
  | r, [] => some (r, none)
  | r, c :: rest => do
    let s ← Switch.ofShort? c
    if s = .help || s = .version then return (r, some s)
    if s.takesValue then
      match rest with
      | [] => return (r, some s)
      | '=' :: value => return (← r.take? s (String.ofList value), none)
      | value => return (← r.take? s (String.ofList value), none)
    else takeShorts (← r.take? s "") rest

mutual

/-- Reads arguments into a request. -/
def readArguments (r : Request) : List String → Asked
  | [] => r.finish
  | argument :: rest =>
    if argument = "--" then readPaths r rest
    else match argument.toList with
      | '-' :: '-' :: long =>
        let (name, value) := match splitOnce '=' long with
          | some (name, value) => (name, some (String.ofList value))
          | none => (long, none)
        match Switch.ofLong? (String.ofList name), value with
        | none, _ => .wrong
        | some s, some value =>
          match if s.takesValue then r.take? s value else none with
          | some r => readArguments r rest
          | none => .wrong
        | some .help, none => .help
        | some .version, none => .version
        | some s, none =>
          if s.takesValue then readValue r s rest
          else match r.take? s "" with
            | some r => readArguments r rest
            | none => .wrong
      | '-' :: shorts@(_ :: _) =>
        match takeShorts r shorts with
        | none => .wrong
        | some (_, some .help) => .help
        | some (_, some .version) => .version
        | some (r, some s) => readValue r s rest
        | some (r, none) => readArguments r rest
      | _ =>
        match r.takePath? argument with
        | some r => readArguments r rest
        | none => .wrong

/-- Reads the value of an option and the arguments after it. -/
def readValue (r : Request) (s : Switch) : List String → Asked
  | [] => .wrong
  | value :: rest =>
    if !isValue value then .wrong
    else match r.take? s value with
      | some r => readArguments r rest
      | none => .wrong

/-- Reads paths into a request. -/
def readPaths (r : Request) : List String → Asked
  | [] => r.finish
  | path :: rest =>
    match r.takePath? path with
    | some r => readPaths r rest
    | none => .wrong

end

/-- What some arguments ask for. -/
def Asked.ofArguments (arguments : List String) : Asked := readArguments {} arguments

end Beans.Command
