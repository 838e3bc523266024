import Beans.Command.Session

/-!
# The program

Answers the requests of a session from the files of the computer.
-/

set_option autoImplicit false

namespace Beans

open Files

/-- The reason behind a failed access. -/
def faultOf : IO.Error → FileFault
  | .noFileOrDirectory .. => .missing
  | .inappropriateType .. => .isFolder
  | e => .other (toString e)

/-- The outcome of an access. -/
def attempt {α : Type} (action : IO α) : IO (Except FileFault α) := do
  try
    return .ok (← action)
  catch e =>
    return .error (faultOf e)

/-- The files of the computer. -/
def realFiles : FileAccess IO where
  kind path := do
    if path.isEmpty then return none
    let place := (← IO.currentDir) / path
    if ← place.isDir then return some .folder
    if ← place.pathExists then return some .file
    return none
  read path := attempt (IO.FS.readFile path)
  write path text := attempt (IO.FS.writeFile path text)
  names path := do
    let place := (← IO.currentDir) / path
    return (← place.readDir).toList.map fun entry => entry.fileName

end Beans

/-- Runs a session with the given arguments. -/
def main (arguments : List String) : IO UInt32 := do
  let report ← Beans.Command.session Beans.realFiles arguments
  for line in report.output do IO.println line
  for message in report.errors do IO.eprintln ("error: " ++ message)
  return report.code.toUInt32
