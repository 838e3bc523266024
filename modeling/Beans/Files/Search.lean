import Beans.Files.Access
import Beans.Files.Pattern

/-!
# Search for source files

A path leads to the file itself, or to the source files in a folder. The path may hold wildcards.

## Main definitions

* `findFiles` — the source files that a path leads to, in order.
-/

set_option autoImplicit false

namespace Beans.Files

/-- The path of a name in a folder. Names in the current folder stand alone. -/
def joinPath (folder name : String) : String :=
  if folder = "." then name
  else if folder = "" || folder.endsWith "/" then folder ++ name
  else folder ++ "/" ++ name

/-- How deep folders can nest. -/
def depthLimit : Nat := 4096

section

variable {m : Type → Type} [Monad m] (files : FileAccess m)

/-- The results of a search at each of some names. -/
def atEach (look : String → m (List String)) : List String → m (List String)
  | [] => pure []
  | name :: rest => do
    let here ← look name
    let others ← atEach look rest
    pure (here ++ others)

/-- The paths under `folder` that fit the patterns. A pattern without wildcards names one entry; any
other one is tried on all of them. -/
def searchIn : Nat → List NamePattern → String → m (List String)
  | 0, _, _ => pure []
  | _, [], _ => pure []
  | depth + 1, p :: rest, folder => do
    match p.name? with
    | some name =>
      let name := String.ofList name
      let path := joinPath folder name
      let kind ← files.kind (if name = "." || name = ".." then folder else path)
      let found := if name = "." || name = ".." then kind = some .folder else kind.isSome
      if !found then pure []
      else if rest.isEmpty then pure [path]
      else searchIn depth rest path
    | none =>
      if (← files.kind folder) ≠ some .folder then pure []
      else
        let names ← files.names folder
        let at' (path name : String) (q : NamePattern) (rest : List NamePattern) :
            m (List String) := do
          if !q.accepts name.toList then pure []
          else if rest.isEmpty then pure [path]
          else searchIn depth rest path
        let entries ← atEach (fun name => do
          let path := joinPath folder name
          if !p.isFolders then at' path name p rest
          else
            let rest := rest.dropWhile NamePattern.isFolders
            let isFolder := (← files.kind path) = some .folder
            let below ← if isFolder then searchIn depth (p :: rest) path else pure []
            match rest with
            | [] => pure (if isFolder then path :: below else [])
            | q :: rest => return below ++ (← at' path name q rest)) names
        let dots ← atEach (fun name => do
          if p.head? = some (.char '.') && p.accepts name.toList then
            let path := joinPath folder name
            if rest.isEmpty then pure [path] else searchIn depth rest path
          else pure []) [".", ".."]
        pure (dots ++ entries)

end

/-- A component of a path for comparison: the way up comes before every name. -/
def componentKey (name : String) : Nat × String := if name = ".." then (0, "") else (1, name)

/-- The components of a path for comparison. -/
def pathKey (path : String) : List (Nat × String) :=
  ((Text.splitWhere (· == '/') path).filter fun name => name != "" && name != ".").map componentKey

/-- The order of components. -/
def componentLe (a b : Nat × String) : Bool :=
  decide (a.1 < b.1) || (a.1 == b.1 && decide (a.2 ≤ b.2))

/-- The order of paths, component by component. -/
def keyLe : List (Nat × String) → List (Nat × String) → Bool
  | [], _ => true
  | _ :: _, [] => false
  | a :: as, b :: bs => if a = b then keyLe as bs else componentLe a b

/-- A malformed pattern of paths. -/
structure FaultyPattern where
  /-- The pattern. -/
  pattern : String
  /-- What is wrong. -/
  fault : PatternFault
deriving DecidableEq, Repr

/-- The message for a malformed pattern. -/
def FaultyPattern.message (f : FaultyPattern) : String :=
  "invalid path pattern `" ++ f.pattern ++ "`: " ++ f.fault.message

/-- The start of a search and the patterns of the components below it. -/
def searchPlan (pattern : String) : Except PatternFault (String × List NamePattern) := do
  let cs := pattern.toList
  let _ ← NamePattern.ofText cs
  let rooted := cs.head? == some '/'
  let components := Text.cutWhere (· == '/') (if rooted then cs.drop 1 else cs)
  let patterns ← components.mapM NamePattern.ofText
  return (if rooted then "/" else ".", patterns)

/-- The pattern of the source files in the folder at a path, or also below it. -/
def sourcePattern (path : String) (recursive : Bool) : String :=
  path ++ if recursive then "/**/*.rs" else "/*.rs"

/-- The source files that a path leads to: the file at the path, or those in the folder, in
order. -/
def findFiles {m : Type → Type} [Monad m] (files : FileAccess m) (path : String)
    (recursive : Bool) : m (Except FaultyPattern (List String)) := do
  if (← files.kind path) = some .file then return .ok [path]
  let pattern := sourcePattern path recursive
  match searchPlan pattern with
  | .error fault => return .error ⟨pattern, fault⟩
  | .ok (start, patterns) =>
    let found ← searchIn files depthLimit patterns start
    return .ok (found.mergeSort fun a b => keyLe (pathKey a) (pathKey b))

end Beans.Files
