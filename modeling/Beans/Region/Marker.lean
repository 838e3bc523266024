import Beans.Text.Blank
import Beans.Text.Lines

/-!
# The generated region

Generated lines stand between two marker lines. This module finds the markers, compares the body
between them with a new one, and puts a new body in place.

## Main definitions

* `Region.find` — the region of a list of lines, or the marker at fault.
* `sameBody` — equality of bodies up to inlining hints and trailing blanks.
* `splice` — the lines with a new body between the markers.
-/

set_option autoImplicit false

namespace Beans

open Text

/-- The line before the generated lines. -/
def startMarker : String :=
  "//------------------------- AUTOGENERATED START -------------------------"

/-- The line after the generated lines. -/
def endMarker : String :=
  "//-------------------------- AUTOGENERATED END --------------------------"

/-- The places of the two markers among the lines, counted from 0. -/
structure Region where
  /-- Index of the start marker. -/
  start : Nat
  /-- Index of the end marker. -/
  stop : Nat
deriving DecidableEq, Repr

/-- What is wrong with the markers. -/
inductive MarkerFault
  | repeatedStart
  | repeatedEnd
  | endWithoutStart
  | startWithoutEnd
deriving DecidableEq, Repr

/-- The message for a fault. -/
def MarkerFault.message : MarkerFault → String
  | .repeatedStart => "repeated AUTOGENERATED START marker"
  | .repeatedEnd => "repeated AUTOGENERATED END marker"
  | .endWithoutStart => "AUTOGENERATED END marker without a start"
  | .startWithoutEnd => "AUTOGENERATED START marker without an end"

/-- A fault and the line it is at, counted from 1. -/
structure FaultyMarker where
  /-- The line. -/
  line : Nat
  /-- The fault. -/
  fault : MarkerFault
deriving DecidableEq, Repr

/-- Looks for markers from line `index` on, with those already found. -/
def Region.scan : Nat → Option Nat → Option Nat → List String →
    Except FaultyMarker (Option Region)
  | _, none, _, [] => .ok none
  | _, some start, none, [] => .error ⟨start + 1, .startWithoutEnd⟩
  | _, some start, some stop, [] => .ok (some ⟨start, stop⟩)
  | index, start, stop, line :: rest =>
    let text := trim line
    if text = startMarker then
      if start.isSome then .error ⟨index + 1, .repeatedStart⟩
      else scan (index + 1) (some index) stop rest
    else if text = endMarker then
      if stop.isSome then .error ⟨index + 1, .repeatedEnd⟩
      else if start.isNone then .error ⟨index + 1, .endWithoutStart⟩
      else scan (index + 1) start (some index) rest
    else scan (index + 1) start stop rest

/-- The region of a list of lines. There is none without markers; markers that are unpaired,
repeated or out of order are a fault. -/
def Region.find (lines : List String) : Except FaultyMarker (Option Region) :=
  scan 0 none none lines

/-- Whether a line, counted from 1, is a marker or stands between them. -/
def Region.containsLine (r : Region) (line : Nat) : Bool :=
  decide (r.start < line) && decide (line ≤ r.stop + 1)

/-- The lines between the markers. -/
def Region.body {α : Type} (r : Region) (lines : List α) : List α :=
  (lines.take r.stop).drop (r.start + 1)

/-- The lines of a body that count when bodies are compared. -/
def significantLines (body : List String) : List String :=
  (body.filter fun line => trim line ≠ "#[inline]").map trimEnd

/-- Bodies are the same up to inlining hints and trailing blanks. -/
def sameBody (old new : List String) : Bool := significantLines old == significantLines new

/-- How many lines before the region are kept, and the index from which on lines after it are kept.
Without a region the new one follows the line at index `anchor`. -/
def keptBounds (count : Nat) (region : Option Region) (anchor : Nat) : Nat × Nat :=
  match region with
  | some r => (r.start, r.stop + 1)
  | none => (min (anchor + 1) count, min (anchor + 1) count)

/-- A line without terminator of its own. -/
def bareLine (text : String) : Line := ⟨text, .none⟩

/-- The marked block around a body. -/
def markedBlock (body : List String) : List Line :=
  (startMarker :: body ++ [endMarker]).map bareLine

/-- Puts a body in place of the old one. Without an old region the new one follows the line at index
`anchor`, with a blank line before it and, unless a blank line or nothing follows, one after it. -/
def splice (lines : List Line) (region : Option Region) (anchor : Nat) (body : List String) :
    List Line :=
  let (headEnd, tailStart) := keptBounds lines.length region anchor
  let head := lines.take headEnd
  let tail := lines.drop tailStart
  match region with
  | some _ => head ++ markedBlock body ++ tail
  | none =>
    let after := match tail with
      | next :: _ => if isBlankText next.text then [] else [bareLine ""]
      | [] => []
    head ++ bareLine "" :: markedBlock body ++ after ++ tail

end Beans
