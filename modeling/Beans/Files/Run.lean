import Beans.Files.Access
import Beans.Region.Rewrite

/-!
# Runs over files

Regenerates the files of a list one after the other. A file that fails does not stop the others; only
a file in which the program itself stops does. A dry run reports the same and writes nothing.

## Main definitions

* `regenerateFile` — regenerates one file.
* `regenerateFiles` — regenerates a list of files and sums up.
-/

set_option autoImplicit false

namespace Beans.Files

/-- Why a file was not regenerated. -/
inductive RunFault
  | source (file : String) (fault : SourceFault)
  | access (file : String) (fault : FileFault)
deriving DecidableEq, Repr

/-- The message for a failed file. -/
def RunFault.message : RunFault → String
  | .source file .unreadable => s!"{file}: syntax"
  | .source file fault => s!"{file}:{fault.line}: {fault.message}"
  | .access file fault => s!"{file}: {fault.message}"

/-- What became of a file. -/
inductive FileOutcome
  | noBean
  | upToDate
  | rewritten
  /-- The program stops. -/
  | stopped
deriving DecidableEq, Repr

/-- The name of an outcome. -/
def FileOutcome.name : FileOutcome → String
  | noBean => "NotABean"
  | upToDate => "Unchanged"
  | rewritten => "Rewritten"
  | stopped => "Stopped"

/-- What became of some files. -/
structure Summary where
  /-- The number of files with a bean that did not fail. -/
  processed : Nat := 0
  /-- The number of those whose text is not up to date. -/
  changed : Nat := 0
  /-- The failures, in the order of the files. -/
  faults : List RunFault := []
  /-- Whether the program stopped, in the file after those. -/
  stopped : Bool := false
deriving DecidableEq, Repr

/-- Whether no file failed. -/
def Summary.isSuccess (s : Summary) : Bool := s.faults.isEmpty

/-- The summary with one more outcome. -/
def Summary.add (s : Summary) : Except RunFault FileOutcome → Summary
  | .ok .noBean => s
  | .ok .upToDate => { s with processed := s.processed + 1 }
  | .ok .rewritten => { s with processed := s.processed + 1, changed := s.changed + 1 }
  | .ok .stopped => { s with stopped := true }
  | .error fault => { s with faults := s.faults ++ [fault] }

section

variable {m : Type → Type} [Monad m] (files : FileAccess m)

/-- Regenerates a file. In a dry run nothing is written. -/
def regenerateFile (s : Settings) (dry : Bool) (file : String) :
    m (Except RunFault FileOutcome) := do
  match ← files.read file with
  | .error fault => return .error (.access file fault)
  | .ok text =>
    match regenerate s text with
    | .error fault => return .error (.source file fault)
    | .ok .noBean => return .ok .noBean
    | .ok .upToDate => return .ok .upToDate
    | .ok .stopped => return .ok .stopped
    | .ok (.rewritten fresh) =>
      if dry then return .ok .rewritten
      match ← files.write file fresh with
      | .error fault => return .error (.access file fault)
      | .ok () => return .ok .rewritten

/-- Regenerates files from a summary on, to the end or until the program stops. -/
def regenerateFrom (s : Settings) (dry : Bool) (sum : Summary) : List String → m Summary
  | [] => pure sum
  | file :: rest => do
    let sum := sum.add (← regenerateFile files s dry file)
    if sum.stopped then return sum
    regenerateFrom s dry sum rest

/-- Regenerates files, in order. -/
def regenerateFiles (s : Settings) (dry : Bool) (paths : List String) : m Summary :=
  regenerateFrom files s dry {} paths

end

end Beans.Files
