import Mathlib.Tactic.Common
import Beans.Layout.Draft

/-!
# The levels at which texts stand

The instructions of a draft are carried out one after the other, with a level that goes up and down
and never below zero. The level at a place is also told by the instructions before it alone: it is
the largest surplus of openings over closings that some last ones of them have, so that a closing
with nothing to close counts for nothing. The texts of a nested draft stand at the level of the
draft and their own together.

## Main definitions

* `Beans.Layout.nesting` — the level behind some instructions.
* `Beans.Layout.writtenAll` — the texts that instructions write, with the levels at which they stand.

## Main results

* `Beans.Layout.nesting_concat` — what one more instruction does to the level.
* `Beans.Layout.layOut_eq_written` — a draft is laid out as the texts that it writes.
-/

set_option autoImplicit false

namespace Beans.Layout

variable {α : Type}

/-! ## Levels -/

/-- Whether the level is one deeper behind an instruction. -/
def Write.opens : Write α → Bool
  | .enter _ | .indent => true
  | .line _ | .blank | .leave _ | .dedent | .doc _ | .nested _ => false

/-- Whether the level is one shallower behind an instruction. -/
def Write.closes : Write α → Bool
  | .leave _ | .dedent => true
  | .line _ | .blank | .enter _ | .indent | .doc _ | .nested _ => false

/-- How many more openings than closings there are. -/
def surplus (draft : List (Write α)) : Nat :=
  draft.countP Write.opens - draft.countP Write.closes

/-- The level behind some instructions: the largest surplus of openings that some last ones of them
have. -/
def nesting : List (Write α) → Nat
  | [] => 0
  | w :: rest => max (surplus (w :: rest)) (nesting rest)

/-- **What one more instruction does to the level.** -/
theorem nesting_concat (before : List (Write α)) (w : Write α) :
    nesting (before ++ [w]) =
      if w.opens then nesting before + 1
      else if w.closes then nesting before - 1
      else nesting before := by
  induction before with
  | nil => cases w <;> simp [nesting, surplus, Write.opens, Write.closes]
  | cons v before ih =>
    rw [List.cons_append, nesting, ih, nesting]
    simp only [surplus, ← List.cons_append, List.countP_append, List.countP_singleton]
    -- no instruction both opens and closes
    cases w <;> simp [Write.opens, Write.closes] <;> omega

/-- The level behind instructions that are carried out is that of the instructions. -/
lemma level_run (before : List (Write String)) (w : Write String) :
    (w.run (nesting before)).2 = nesting (before ++ [w]) := by
  rw [nesting_concat]
  cases w <;> rfl

/-! ## Written texts -/

mutual

/-- What an instruction writes behind others: its texts, with the levels at which they stand. -/
def Write.written (before : List (Write String)) : Write String → List DraftLine
  | .line text => [(nesting before, text)]
  | .blank => [(nesting before, "")]
  | .enter text => [(nesting before, text)]
  | .leave text => [(nesting before - 1, text)]
  | .indent | .dedent => []
  | .doc text => (docLines text).map fun line => (nesting before, line)
  | .nested draft => (writtenAll [] draft).map fun line => (nesting before + line.1, line.2)

/-- What instructions write behind others. -/
def writtenAll (before : List (Write String)) : List (Write String) → List DraftLine
  | [] => []
  | w :: rest => w.written before ++ writtenAll (before ++ [w]) rest

end

/-- What a draft writes. -/
def written (draft : List (Write String)) : List DraftLine := writtenAll [] draft

lemma atLevel_atLevel (level inner : Nat) (line : DraftLine) :
    atLevel level (atLevel inner line) = atLevel (level + inner) line := by
  unfold atLevel
  split <;> simp_all [Nat.add_assoc]

lemma atLevel_add (level : Nat) (line : DraftLine) :
    atLevel 0 (level + line.1, line.2) = atLevel level line := by
  simp [atLevel]

mutual

/-- An instruction gives the lines that it writes, the levels of blank lines apart. -/
theorem run_eq_written (before : List (Write String)) (w : Write String) :
    (w.run (nesting before)).1.map (atLevel 0) = (w.written before).map (atLevel 0) := by
  cases w with
  | line text => rfl
  | blank => rfl
  | enter text => rfl
  | leave text => rfl
  | indent => rfl
  | dedent => rfl
  | doc text => rfl
  | nested draft =>
    have hdraft := writeAll_eq_written [] draft
    have hnil : nesting ([] : List (Write String)) = 0 := rfl
    rw [hnil] at hdraft
    have hset (lines : List DraftLine) :
        (lines.map (atLevel 0)).map (atLevel (nesting before)) =
          lines.map (atLevel (nesting before)) := by
      simp [atLevel_atLevel]
    calc ((Write.nested draft).run (nesting before)).1.map (atLevel 0)
        = (writeAll 0 draft).1.map (atLevel (nesting before)) := by
          simp [Write.run, atLevel_atLevel]
      _ = (writtenAll [] draft).map (atLevel (nesting before)) := by
          rw [← hset, hdraft, hset]
      _ = ((Write.nested draft).written before).map (atLevel 0) := by
          simp [Write.written, atLevel_add]

/-- Instructions give the lines that they write, the levels of blank lines apart. -/
theorem writeAll_eq_written (before draft : List (Write String)) :
    (writeAll (nesting before) draft).1.map (atLevel 0) =
      (writtenAll before draft).map (atLevel 0) := by
  cases draft with
  | nil => rfl
  | cons w rest =>
    have hw := run_eq_written before w
    have hrest := writeAll_eq_written (before ++ [w]) rest
    rw [← level_run] at hrest
    simp only [writeAll, writtenAll, List.map_append, hw, hrest]

end

/-- The levels of blank lines do not matter. -/
lemma layOutFrom_map_atLevel (unit : String) (started gap : Bool) (lines : List DraftLine) :
    layOutFrom unit started gap (lines.map (atLevel 0)) = layOutFrom unit started gap lines := by
  induction lines generalizing started gap with
  | nil => rfl
  | cons line lines ih =>
    obtain ⟨level, text⟩ := line
    by_cases htext : text.isEmpty = true <;> simp [atLevel, layOutFrom, htext, ih]

/-- **A draft is laid out as the texts that it writes.** -/
theorem layOut_eq_written (indent : Indent) (draft : List (Write String)) :
    layOut indent draft = layOutFrom indent.unit false false (written draft) := by
  have hlines := writeAll_eq_written [] draft
  rw [layOut, draftLines, written, ← layOutFrom_map_atLevel, ← layOutFrom_map_atLevel _ _ _
    (writtenAll [] draft), ← hlines]
  rfl

end Beans.Layout
