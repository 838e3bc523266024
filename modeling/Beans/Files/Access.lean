import Beans.Text.Search

/-!
# Access to files

What a run needs from a file system, and a file system as a value that answers such requests.

## Main definitions

* `FileAccess` — reading, writing and listing, in any monad.
* `FileSystem` — folders and texts of files; `FileSystem.access` answers from one.
-/

set_option autoImplicit false

namespace Beans.Files

/-- The reason for which a file cannot be read or written. -/
inductive FileFault
  | missing
  | isFolder
  | notFolder
  /-- Any other reason, by its message. -/
  | other (message : String)
deriving DecidableEq, Repr

/-- The message for a fault. -/
def FileFault.message : FileFault → String
  | .missing => "No such file or directory (os error 2)"
  | .isFolder => "Is a directory (os error 21)"
  | .notFolder => "Not a directory (os error 20)"
  | .other message => message

/-- What stands at a path. -/
inductive FileKind
  | file
  | folder
deriving DecidableEq, Repr

/-- The requests to a file system, by the texts of paths. -/
structure FileAccess (m : Type → Type) where
  /-- What stands at a path. -/
  kind : String → m (Option FileKind)
  /-- The text of a file. -/
  read : String → m (Except FileFault String)
  /-- Replaces the text of a file. -/
  write : String → String → m (Except FileFault Unit)
  /-- The names in a folder. -/
  names : String → m (List String)

/-- A file system: what stands at each place, where a place is the list of names that lead to it.
The folders around a place need no entry of their own. -/
structure FileSystem where
  /-- The entries: texts of files, and folders. -/
  entries : List (List String × Option String)
  /-- The place that relative paths start from. -/
  current : List String := []
  /-- The files that cannot be read, with the reasons. -/
  unreadable : List (List String × FileFault) := []
deriving DecidableEq, Repr

/-- Whether a folder stands at a place. -/
def FileSystem.isFolder (fs : FileSystem) (place : List String) : Bool :=
  place.isEmpty || fs.entries.any fun (p, content) =>
    place.isPrefixOf p && (p.length != place.length || content.isNone)

/-- The text of the file at a place. -/
def FileSystem.text? (fs : FileSystem) (place : List String) : Option String :=
  (fs.entries.find? fun (p, _) => p == place).bind (·.2)

/-- What stands at a place. -/
def FileSystem.kindAt (fs : FileSystem) (place : List String) : Option FileKind :=
  if fs.isFolder place then some .folder
  else if (fs.text? place).isSome then some .file
  else none

/-- Follows names from a place on; every place on the way has to be a folder. -/
def FileSystem.follow (fs : FileSystem) (place : List String) :
    List String → Except FileFault (List String)
  | [] => .ok place
  | name :: rest =>
    match fs.kindAt place with
    | none => .error .missing
    | some .file => .error .notFolder
    | some .folder =>
      if name = "" || name = "." then fs.follow place rest
      else if name = ".." then fs.follow place.dropLast rest
      else fs.follow (place ++ [name]) rest

/-- The place that a path leads to. -/
def FileSystem.place (fs : FileSystem) (path : String) : Except FileFault (List String) :=
  if path.isEmpty then .error .missing
  else
    let start := if path.front = '/' then [] else fs.current
    match fs.follow start (Text.splitWhere (· == '/') path) with
    | .error fault => .error fault
    | .ok place => if (fs.kindAt place).isSome then .ok place else .error .missing

/-- The text of the file at a path. -/
def FileSystem.read (fs : FileSystem) (path : String) : Except FileFault String :=
  match fs.place path with
  | .error fault => .error fault
  | .ok place =>
    match fs.text? place, fs.unreadable.lookup place with
    | some text, none => .ok text
    | some _, some fault => .error fault
    | none, _ => .error .isFolder

/-- The file system with another text in the file at a place. -/
def FileSystem.put (fs : FileSystem) (place : List String) (text : String) : FileSystem :=
  { fs with
    entries := fs.entries.map fun (p, content) =>
      (p, content.map fun old => if p = place then text else old) }

/-- The file system with another text in the file at a path. -/
def FileSystem.write (fs : FileSystem) (path text : String) : Except FileFault FileSystem :=
  match fs.place path with
  | .error fault => .error fault
  | .ok place =>
    if (fs.text? place).isSome then .ok (fs.put place text) else .error .isFolder

/-- The names in the folder at a place, each once. -/
def FileSystem.namesAt (fs : FileSystem) (place : List String) : List String :=
  (fs.entries.filterMap fun (p, _) =>
    if place.isPrefixOf p then p[place.length]? else none).eraseDups

/-- A file system that answers requests. -/
def FileSystem.access : FileAccess (StateM FileSystem) where
  kind path := do
    let fs ← get
    return (fs.place path).toOption.bind fs.kindAt
  read path := do return (← get).read path
  write path text := do
    match (← get).write path text with
    | .ok fs =>
      set fs
      return .ok ()
    | .error fault => return .error fault
  names path := do
    let fs ← get
    return ((fs.place path).toOption.map fs.namesAt).getD []

end Beans.Files
