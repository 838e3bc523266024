import Beans.Command.Arguments
import Beans.Files.Run
import Beans.Files.Search

/-!
# Sessions of the program

One call of the program: from its arguments to the files it regenerates, the lines it prints and the
code it ends with.
-/

set_option autoImplicit false

namespace Beans.Command

open Files

/-- What the program prints and how it ends. -/
structure Report where
  /-- The code: 0 for success, 1 for a failed run, 2 for wrong usage, 101 for a run that stopped. -/
  code : Nat
  /-- The lines of the output. -/
  output : List String := []
  /-- The messages of the errors. -/
  errors : List String := []
deriving DecidableEq, Repr

/-- The report of a run that could not start. -/
def Report.failed (message : String) : Report := ⟨1, [], [message]⟩

/-- A short description of the usage. -/
def usage : String :=
  "Usage: metabean-gen [OPTIONS] <PATH>"

/-- The version of the program. -/
def versionLine : String := "metabean-gen 0.1.0"

section

variable {m : Type → Type} [Monad m] (files : FileAccess m)

/-- The settings of a request, or the message for a profile that is not there. -/
def Request.settings (r : Request) : m (Except String Settings) := do
  match Profile.named r.profile with
  | .error e => return .error e.message
  | .ok base =>
    let settings (profile : Profile) : Settings :=
      { indent := r.indent, eol := r.eol, lead := r.lead, defaultStyle := r.style, profile }
    match r.config with
    | none => return .ok (settings base)
    | some file =>
      let failed (message : String) : Except String Settings :=
        .error ("loading config " ++ file ++ ": " ++ message)
      match ← files.read file with
      | .error fault => return failed (file ++ ": " ++ fault.message ++ ": " ++ fault.message)
      | .ok text =>
        match Profile.ofText text with
        | .error e => return failed e.message
        | .ok above => return .ok (settings (base.merge above))

/-- Runs a request for the files at a path. -/
def Request.run (r : Request) (path : String) : m Report := do
  match ← r.settings files with
  | .error message => return .failed message
  | .ok settings =>
    match ← findFiles files path r.recursive with
    | .error fault => return .failed fault.message
    | .ok [] => return .failed ("no Rust files under " ++ path)
    | .ok paths =>
      let sum ← regenerateFiles files settings r.dry paths
      if sum.stopped then return ⟨101, [], []⟩
      let verb := if r.dry then "would change" else "changed"
      return {
        code := if sum.isSuccess then 0 else 1
        output := [s!"{sum.changed} of {sum.processed} bean files {verb}"]
        errors := sum.faults.map RunFault.message }

/-- One call of the program. -/
def session (arguments : List String) : m Report :=
  match Asked.ofArguments arguments with
  | .run request path => request.run files path
  | .help => pure ⟨0, [usage], []⟩
  | .version => pure ⟨0, [versionLine], []⟩
  | .wrong => pure ⟨2, [], []⟩

end

end Beans.Command
