import Beans.Generation.Code
import Beans.Region.Imports
import Beans.Region.Marker

/-!
# Regeneration of a source file

From the text of a file to its text with fresh generated code: the declaration of its bean is
read, the code is generated and put between the markers, and what it needs is imported.

## Main definitions

* `Regenerated` — what becomes of a text.
* `SourceReading`, `SourceReading.ofLines` — what is found in the lines of a text.
* `regenerate` — regenerates a text.
-/

set_option autoImplicit false

namespace Beans

open Syntax Text

/-- What is wrong with a source text. -/
inductive SourceFault
  /-- The text is no source text. -/
  | unreadable
  /-- The markers are out of order. -/
  | marker (fault : FaultyMarker)
  /-- The declaration breaks its rules. -/
  | declaration (faults : List FaultAt)
deriving DecidableEq, Repr

/-- The line of a fault. -/
def SourceFault.line : SourceFault → Nat
  | .unreadable => 0
  | .marker fault => fault.line
  | .declaration faults => (faults.head?.map FaultAt.line).getD 0

/-- The message for a fault. -/
def SourceFault.message : SourceFault → String
  | .unreadable => ""
  | .marker fault => fault.fault.message
  | .declaration faults => joinWith "; " (faults.map FaultAt.message)

/-- What becomes of a text. -/
inductive Regenerated
  /-- It declares no bean. -/
  | noBean
  /-- Its generated code is up to date. -/
  | upToDate
  | rewritten (text : String)
  /-- The program stops: the place of an import is beyond the end of the lines. -/
  | stopped
deriving DecidableEq, Repr

/-- The text of some lines as it is read: with line feeds between them. -/
def plainText (lines : List String) : String := joinWith "\n" lines

/-- The traits that a bean has by hand, outside the generated region. -/
def suppliedTraits (file : SourceFile) (bean : String) (region : Option Region) : List String :=
  file.filterMap fun
    | .impl line (some trait) ty =>
      if !(region.any fun r => r.containsLine line) && ty.lastName? == some bean then
        trait.lastName?
      else none
    | _ => none

/-- The line that a struct ends on: that of its closing brace. -/
def structEnd (d : Declaration) : Nat :=
  match d.data with
  | .struct (.named _ closing) => closing
  | _ => d.lines.last

/-- Whether a line needs no blank line between it and an import before it. -/
def followsImport (line : Line) : Bool :=
  isBlankText line.text || (stripStart? "use ".toList line.text.toList).isSome

/-- Inserts an import at an index of some lines, with a blank line after it where other code
follows. -/
def insertImport (index : Nat) (names : List String) (lines : List Line) : List Line :=
  let tail := lines.drop index
  let gap := match tail with
    | next :: _ => if followsImport next then [] else [bareLine ""]
    | [] => []
  lines.take index ++ bareLine (importLine names) :: gap ++ tail

/-- What is found in the lines of a text that declares a bean. -/
structure SourceReading where
  /-- The items. -/
  file : SourceFile
  /-- The declaration of the bean. -/
  bean : Declaration
  /-- Where the generated region is, if there is one. -/
  region : Option Region
  /-- The code for the bean. -/
  generated : Generated

/-- Reads the lines of a text; there is nothing to be found if it declares no bean. -/
def SourceReading.ofLines (s : Settings) (texts : List String) : Except SourceFault (Option SourceReading) :=
  match readSource? (plainText texts) with
  | none => .error .unreadable
  | some file =>
    match findBean file with
    | none => .ok none
    | some bean =>
      match Region.find texts with
      | .error fault => .error (.marker fault)
      | .ok region =>
        match Generated.ofDeclaration bean (suppliedTraits file bean.name region) s .source with
        | .error faults => .error (.declaration faults)
        | .ok generated => .ok (some ⟨file, bean, region, generated⟩)

namespace SourceReading

/-- The lines of the code. -/
def body (r : SourceReading) (s : Settings) : List String := Layout.layOut s.indent r.generated.code

/-- The names that the code needs and that are not in scope. -/
def missing (r : SourceReading) : List String := missingNames r.file r.generated.imports

/-- Whether the code stands between the markers and all names are in scope. -/
def isCurrent (r : SourceReading) (s : Settings) (texts : List String) : Bool :=
  r.missing.isEmpty && r.region.any fun region => sameBody (region.body texts) (r.body s)

/-- The number of lines before the import of the names that are missing. -/
def importPlace (r : SourceReading) : Nat := importIndex r.file r.bean.lines.first

/-- The lines with fresh code. -/
def splicedLines (r : SourceReading) (s : Settings) (lines : List Line) : List Line :=
  splice lines r.region (structEnd r.bean - 1) (r.body s)

/-- Whether the import, if one is needed, has its place among the lines with fresh code. The place
is counted in the old lines, which can be more. -/
def importFits (r : SourceReading) (s : Settings) (lines : List Line) : Bool :=
  r.missing.isEmpty || decide (r.importPlace ≤ (r.splicedLines s lines).length)

/-- The lines with fresh code, and with an import of the names that are missing. -/
def freshLines (r : SourceReading) (s : Settings) (lines : List Line) : List Line :=
  if r.missing.isEmpty then r.splicedLines s lines
  else insertImport r.importPlace r.missing (r.splicedLines s lines)

/-- The text with fresh code. It ends as the text before did. -/
def rewrite (r : SourceReading) (s : Settings) (lines : List Line) : String :=
  let terminated := lines.getLast?.any fun l => decide (l.ending ≠ .none)
  String.ofList (joinLines s.eol.ending terminated (r.freshLines s lines))

end SourceReading

/-- Regenerates a text. Nothing is written if the code between the markers is up to date and all
names are in scope, or if there is no place for an import. -/
def regenerate (s : Settings) (text : String) : Except SourceFault Regenerated :=
  let lines := splitLines text
  let texts := lines.map Line.text
  match SourceReading.ofLines s texts with
  | .error fault => .error fault
  | .ok none => .ok .noBean
  | .ok (some r) =>
    if r.isCurrent s texts then .ok .upToDate
    else if !r.importFits s lines then .ok .stopped
    else
      let out := r.rewrite s lines
      .ok (if out = text then .upToDate else .rewritten out)

end Beans
