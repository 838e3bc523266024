import Beans.Generation.Fragment
import Beans.Syntax.Item

/-!
# Imports of a file

Which names the imports of a file bring into scope, which names generated code is still missing, and
where a line that imports them belongs.

## Main definitions

* `SourceFile.boundNames` — the names that the imports bind.
* `SourceFile.importsRuntime` — whether everything of the runtime library is imported.
* `missingNames` — the names among some that are not in scope.
* `importIndex` — the place for one more import.
-/

set_option autoImplicit false

namespace Beans.Syntax

mutual

/-- The names that an import tree binds. -/
def UseTree.bound : UseTree → List String
  | .path _ rest => rest.bound
  | .name name => [name]
  | .rename _ bound => [bound]
  | .glob => []
  | .group trees => boundByAll trees

/-- The names that import trees bind. -/
def boundByAll : List UseTree → List String
  | [] => []
  | tree :: rest => tree.bound ++ boundByAll rest

end

mutual

/-- Whether a tree at the root of an import takes everything that stands directly in `library`. -/
def UseTree.takesAll (library : String) : UseTree → Bool
  | .path name .glob => name == library
  | .path .. => false
  | .group trees => anyTakesAll library trees
  | .name _ | .rename .. | .glob => false

/-- Whether one of some trees takes everything that stands directly in `library`. -/
def anyTakesAll (library : String) : List UseTree → Bool
  | [] => false
  | tree :: rest => tree.takesAll library || anyTakesAll library rest

end

/-- The import trees of a file. -/
def SourceFile.uses (file : SourceFile) : List UseTree :=
  file.filterMap fun
    | .use tree _ => some tree
    | _ => none

/-- The names that the imports of a file bind. -/
def SourceFile.boundNames (file : SourceFile) : List String := boundByAll (SourceFile.uses file)

end Beans.Syntax

namespace Beans

open Syntax

/-- Whether a file imports everything of the runtime library. -/
def importsRuntime (file : SourceFile) : Bool := anyTakesAll runtimeName (SourceFile.uses file)

/-- The names among `needed` that a file does not have in scope. -/
def missingNames (file : SourceFile) (needed : List String) : List String :=
  if importsRuntime file then []
  else needed.filter fun name => !(SourceFile.boundNames file).contains name

/-- The line that imports some names of the runtime library. -/
def importLine (names : List String) : String :=
  match names with
  | [name] => "use " ++ runtimeName ++ "::" ++ name ++ ";"
  | _ => "use " ++ runtimeName ++ "::\x7b" ++ Text.joinWith ", " names ++ "\x7d;"

/-- The number of lines to keep before one more import: up to the last import that ends before the
line `start` of the bean, or up to the bean if there is none. -/
def importIndex (file : SourceFile) (start : Nat) : Nat :=
  let ends := file.filterMap fun
    | .use _ last => if last < start then some last else none
    | _ => none
  match ends.max? with
  | some last => last
  | none => start - 1

end Beans
