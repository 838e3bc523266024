import Beans.Layout.Style
import Beans.Text.Lines
import Beans.Text.Search

/-!
# Drafts of source text

Generated source is written as a list of instructions: lines, blank lines, changes of the nesting
level and nested drafts. Carrying them out gives the lines with their levels; laying these out
gives text in a normal form, where blank lines never repeat and never stand at either end.

## Main definitions

* `Write` — one instruction.
* `writeAll` — the lines that instructions give, and the level they end at.
* `layOut` — the lines of a draft with a given unit of indentation.
-/

set_option autoImplicit false

namespace Beans.Layout

/-- An instruction that writes lines with texts of type `α`. -/
inductive Write (α : Type) where
  /-- A line at the current level. -/
  | line (text : α)
  /-- A blank line. -/
  | blank
  /-- A line after which the level is one deeper. -/
  | enter (text : α)
  /-- A line before which the level is one shallower. -/
  | leave (text : α)
  /-- One level deeper. -/
  | indent
  /-- One level shallower. -/
  | dedent
  /-- A documentation comment, one line for each line of the text. -/
  | doc (text : String)
  /-- A draft of its own, set at the current level. -/
  | nested (draft : List (Write α))

mutual

/-- Changes the texts of an instruction. -/
def Write.map {α β : Type} (f : α → β) : Write α → Write β
  | .line text => .line (f text)
  | .blank => .blank
  | .enter text => .enter (f text)
  | .leave text => .leave (f text)
  | .indent => .indent
  | .dedent => .dedent
  | .doc text => .doc text
  | .nested draft => .nested (mapAll f draft)

/-- Changes the texts of a list of instructions. -/
def mapAll {α β : Type} (f : α → β) : List (Write α) → List (Write β)
  | [] => []
  | w :: rest => w.map f :: mapAll f rest

end

mutual

/-- The texts of an instruction, in order. -/
def Write.texts {α : Type} : Write α → List α
  | .line text => [text]
  | .enter text => [text]
  | .leave text => [text]
  | .nested draft => textsAll draft
  | .blank | .indent | .dedent | .doc _ => []

/-- The texts of a list of instructions, in order. -/
def textsAll {α : Type} : List (Write α) → List α
  | [] => []
  | w :: rest => w.texts ++ textsAll rest

end

/-- A line of a draft: its level and its text; an empty text is a blank line. -/
abbrev DraftLine := Nat × String

/-- The lines of a documentation comment. -/
def docLines (text : String) : List String :=
  if text.isEmpty then ["///"]
  else (Text.feedLines text).map fun line => if line.isEmpty then "///" else "/// " ++ line

/-- Sets the line of a nested draft at a level; blank lines have none. -/
def atLevel (level : Nat) (line : DraftLine) : DraftLine :=
  if line.2.isEmpty then (0, "") else (level + line.1, line.2)

mutual

/-- The lines that an instruction gives at a level, and the level after it. -/
def Write.run (level : Nat) : Write String → List DraftLine × Nat
  | .line text => ([(level, text)], level)
  | .blank => ([(0, "")], level)
  | .enter text => ([(level, text)], level + 1)
  | .leave text => ([(level - 1, text)], level - 1)
  | .indent => ([], level + 1)
  | .dedent => ([], level - 1)
  | .doc text => ((docLines text).map fun line => (level, line), level)
  | .nested draft => ((writeAll 0 draft).1.map (atLevel level), level)

/-- The lines that instructions give from a level on, and the level they end at. -/
def writeAll (level : Nat) : List (Write String) → List DraftLine × Nat
  | [] => ([], level)
  | w :: rest =>
    let (lines, level) := w.run level
    let (others, level) := writeAll level rest
    (lines ++ others, level)

end

/-- The lines of a draft. -/
def draftLines (draft : List (Write String)) : List DraftLine := (writeAll 0 draft).1

/-- The text of the only line of a draft, if it has exactly one. -/
def singleLine? (draft : List (Write String)) : Option String :=
  match draftLines draft with
  | [(_, text)] => some text
  | _ => none

/-- Lays out lines. `started` tells whether a line stands before them, `gap` whether a blank line
has to separate them from it. -/
def layOutFrom (unit : String) : Bool → Bool → List DraftLine → List String
  | _, _, [] => []
  | started, gap, (level, text) :: rest =>
    if text.isEmpty then layOutFrom unit started started rest
    else
      let line := Text.timesText level unit ++ text
      if gap then "" :: line :: layOutFrom unit true false rest
      else line :: layOutFrom unit true false rest

/-- The lines of a draft as text: each behind one unit of indentation for each level, runs of blank
lines as one, and none at either end. -/
def layOut (indent : Indent) (draft : List (Write String)) : List String :=
  layOutFrom indent.unit false false (draftLines draft)

/-- The text of a draft. -/
def renderDraft (indent : Indent) (draft : List (Write String)) : String :=
  Text.joinWith "\n" (layOut indent draft) ++ "\n"

/-- Items as lines, with a comma after each but the last. -/
def commaLines {α : Type} (comma : α → α) : List α → List (Write α)
  | [] => []
  | [item] => [.line item]
  | item :: rest => .line (comma item) :: commaLines comma rest

end Beans.Layout
