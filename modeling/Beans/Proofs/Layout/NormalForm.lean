import Mathlib.Data.List.Basic
import Mathlib.Tactic.Common
import Beans.Proofs.Layout.Levels

/-!
# The normal form of a draft

However a draft is written, its text has one form: the texts that are not empty, each behind its
indentation, with one blank line between two of them exactly if something blank was written there, and
none at either end. There is one such text only.

## Main definitions

* `Beans.Layout.blankRuns` — the numbers of blank lines before, between and behind the other lines.
* `Beans.Layout.NormalForm` — the normal form of what a draft writes.

## Main results

* `Beans.Layout.eq_of_blankRuns` — lines are told by the runs of blank lines and the other lines.
* `Beans.Layout.layOut_eq_iff` — the text of a draft is the normal form of what it writes.
-/

set_option autoImplicit false

namespace Beans.Layout

variable {unit : String} {lines lines' : List String} {ls : List DraftLine}

/-! ## Runs of blank lines -/

/-- The numbers of blank lines before, between and behind the other lines. -/
def blankRuns (lines : List String) : List Nat := (lines.splitOnP (· ≠ "")).map List.length

lemma blankRuns_ne_nil (lines : List String) : blankRuns lines ≠ [] := by
  simp [blankRuns, List.splitOnP_ne_nil]

@[simp]
lemma blankRuns_nil : blankRuns [] = [0] := by simp [blankRuns, List.splitOnP_nil]

@[simp]
lemma blankRuns_blank (lines : List String) :
    blankRuns ("" :: lines) = (blankRuns lines).modifyHead (· + 1) := by
  rw [blankRuns, List.splitOnP_cons_eq_if_modifyHead, blankRuns]
  cases lines.splitOnP (· ≠ "") <;> simp

lemma blankRuns_text {text : String} (h : text ≠ "") (lines : List String) :
    blankRuns (text :: lines) = 0 :: blankRuns lines := by
  rw [blankRuns, List.splitOnP_cons_eq_if_modifyHead, blankRuns]
  simp [h]

/-- There is one run more than there are lines that are not blank. -/
lemma length_blankRuns (lines : List String) :
    (blankRuns lines).length = (lines.filter (· ≠ "")).length + 1 := by
  induction lines with
  | nil => simp
  | cons text lines ih =>
    by_cases h : text = ""
    · simp [h, ih]
    · simp [h, blankRuns_text, ih]

lemma exists_blankRuns_eq (lines : List String) : ∃ n runs, blankRuns lines = n :: runs :=
  List.exists_cons_of_ne_nil (blankRuns_ne_nil lines)

/-- There is no run in front if the first line is not blank. -/
lemma head?_blankRuns_iff : (blankRuns lines).head? = some 0 ↔ lines.head? ≠ some "" := by
  cases lines with
  | nil => simp
  | cons text lines =>
    obtain ⟨n, runs, hruns⟩ := exists_blankRuns_eq lines
    by_cases h : text = ""
    · simp [h, hruns]
    · simp [h, blankRuns_text]

/-- There is no run behind if the last line is not blank. -/
lemma getLast?_blankRuns_iff : (blankRuns lines).getLast? = some 0 ↔ lines.getLast? ≠ some "" := by
  induction lines with
  | nil => simp
  | cons text lines ih =>
    obtain ⟨n, runs, hruns⟩ := exists_blankRuns_eq lines
    rw [hruns] at ih
    by_cases h : text = ""
    · cases lines with
      | nil => simp [h]
      | cons other lines =>
        cases runs with
        | nil =>
          -- there are blank lines only
          have hother : other = "" := by
            by_contra hother
            simp [blankRuns_text hother, blankRuns_ne_nil] at hruns
          obtain ⟨m, rest, hrest⟩ := exists_blankRuns_eq lines
          obtain ⟨rfl, -⟩ : m + 1 = n ∧ rest = [] := by simpa [hother, hrest] using hruns
          simpa [h, hruns] using ih
        | cons => simp [h, hruns, ← ih]
    · cases lines with
      | nil => simp [h, blankRuns_text]
      | cons other lines => simp [h, blankRuns_text, hruns, ← ih]

/-- **Lines are told by the runs of blank lines** and the lines that are not blank.

**Proof sketch.** Induction on the lines. A line that is not blank is the first one that is kept by
the filter. A blank line is told by the length of the first run, which is zero if there is none. -/
theorem eq_of_blankRuns (hfilter : lines.filter (· ≠ "") = lines'.filter (· ≠ ""))
    (hruns : blankRuns lines = blankRuns lines') : lines = lines' := by
  induction lines generalizing lines' with
  | nil =>
    cases lines' with
    | nil => rfl
    | cons text' lines' =>
      obtain ⟨n', runs', hruns'⟩ := exists_blankRuns_eq lines'
      by_cases h' : text' = ""
      · simp [h', hruns'] at hruns
      · simp [h'] at hfilter
  | cons text lines ih =>
    obtain ⟨n, runs, hn⟩ := exists_blankRuns_eq lines
    cases lines' with
    | nil =>
      by_cases h : text = ""
      · simp [h, hn] at hruns
      · simp [h] at hfilter
    | cons text' lines' =>
      obtain ⟨n', runs', hn'⟩ := exists_blankRuns_eq lines'
      by_cases h : text = "" <;> by_cases h' : text' = ""
      · rw [h, h'] at hruns hfilter ⊢
        have hrest : blankRuns lines = blankRuns lines' := by
          simpa [hn, hn'] using hruns
        rw [ih (by simpa using hfilter) hrest]
      · simp [h, h', blankRuns_text, hn] at hruns
      · simp [h, h', blankRuns_text, hn'] at hruns
      · obtain ⟨rfl, hrest⟩ : text = text' ∧ _ := by simpa [h, h'] using hfilter
        rw [blankRuns_text h, blankRuns_text h] at hruns
        rw [ih (by simpa using hrest) (List.cons.inj hruns).2]

/-! ## Normal forms -/

/-- A text that was written, behind its indentation. -/
def indented (unit : String) (line : DraftLine) : String := Text.timesText line.1 unit ++ line.2

/-- The texts that are not empty among what was written. -/
def filled (ls : List DraftLine) : List DraftLine := ls.filter (·.2 ≠ "")

/-- The normal form of what was written: the lines that are not blank are the texts that are not empty,
each behind its indentation; between two of them there is one blank line, or none if nothing blank was
written there; and no blank line is the first or the last one. -/
structure NormalForm (unit : String) (ls : List DraftLine) (lines : List String) : Prop where
  texts : lines.filter (· ≠ "") = (filled ls).map (indented unit)
  between : ∀ i, 0 < i → i < (filled ls).length →
    (blankRuns lines)[i]? =
      some (if (blankRuns (ls.map Prod.snd))[i]? = some 0 then 0 else 1)
  first : lines.head? ≠ some ""
  last : lines.getLast? ≠ some ""

/-- Runs of blank lines as they are laid out: as one line, and none at the end. -/
def closeRuns : List Nat → List Nat
  | [] => []
  | [_] => [0]
  | n :: m :: runs => min n 1 :: closeRuns (m :: runs)

lemma getLast?_closeRuns {runs : List Nat} (h : runs ≠ []) :
    (closeRuns runs).getLast? = some 0 := by
  fun_induction closeRuns runs with
  | case1 => exact absurd rfl h
  | case2 => rfl
  | case3 n m runs ih => simp [List.getLast?_cons, ih]

lemma getElem?_closeRuns {runs : List Nat} {i : Nat} (h : i + 1 < runs.length) :
    (closeRuns runs)[i]? = some (if runs[i]? = some 0 then 0 else 1) := by
  fun_induction closeRuns runs generalizing i with
  | case1 => simp at h
  | case2 => simp at h
  | case3 n m runs ih =>
    cases i with
    | zero => cases n <;> simp
    | succ i => simpa using ih (by simpa using h)

lemma closeRuns_min (runs : List Nat) :
    closeRuns (runs.modifyHead (min · 1)) = closeRuns runs := by
  cases runs with
  | nil => rfl
  | cons n runs => cases runs <;> simp [closeRuns]

lemma indented_ne_empty (unit : String) (level : Nat) {text : String} (h : text ≠ "") :
    Text.timesText level unit ++ text ≠ "" :=
  fun hempty => h (String.append_eq_empty_iff.mp hempty).2

/-- The lines that are not blank are the texts that are not empty. -/
lemma filter_layOutFrom (started gap : Bool) (ls : List DraftLine) :
    (layOutFrom unit started gap ls).filter (· ≠ "") = (filled ls).map (indented unit) := by
  induction ls generalizing started gap with
  | nil => rfl
  | cons line ls ih =>
    obtain ⟨level, text⟩ := line
    simp only [ne_eq, decide_not, filled] at ih ⊢
    by_cases h : text = ""
    · simp [layOutFrom, h, ih]
    · have hne := indented_ne_empty unit level h
      cases gap <;> simp [layOutFrom, h, ih, hne, indented]

/-- The runs of blank lines behind a line, or at the start. A gap that is open counts as a blank line,
and the blank lines at the start do not count. -/
lemma blankRuns_layOutFrom (unit : String) (started gap : Bool)
    (hgap : gap = true → started = true) (ls : List DraftLine) :
    blankRuns (layOutFrom unit started gap ls) =
      closeRuns ((blankRuns (ls.map Prod.snd)).modifyHead fun n =>
        if gap then 1 else if started then min n 1 else 0) := by
  induction ls generalizing started gap with
  | nil => simp [layOutFrom, closeRuns]
  | cons line ls ih =>
    obtain ⟨level, text⟩ := line
    obtain ⟨n, runs, hruns⟩ := exists_blankRuns_eq (ls.map Prod.snd)
    by_cases h : text = ""
    · have hrest := ih started started id
      cases started <;> cases gap <;> simp_all [layOutFrom]
    · have hrest := ih true false (by simp)
      simp [closeRuns_min] at hrest
      have hne := indented_ne_empty unit level h
      cases gap <;> simp [layOutFrom, h, blankRuns_text, hne, hrest, hruns, closeRuns]

/-- There is one run more than there are texts that are not empty. -/
lemma length_blankRuns_map (ls : List DraftLine) :
    (blankRuns (ls.map Prod.snd)).length = (filled ls).length + 1 := by
  rw [length_blankRuns, List.filter_map, List.length_map, filled]
  rfl

/-- Lines that are laid out have the normal form. -/
lemma normalForm_layOutFrom (unit : String) (ls : List DraftLine) :
    NormalForm unit ls (layOutFrom unit false false ls) := by
  have hruns := blankRuns_layOutFrom unit false false id ls
  have hlength := length_blankRuns_map ls
  obtain ⟨n, runs, hn⟩ := exists_blankRuns_eq (ls.map Prod.snd)
  rw [hn] at hruns hlength
  simp only [Bool.false_eq_true, if_false, List.modifyHead_cons] at hruns
  rw [List.length_cons] at hlength
  refine ⟨filter_layOutFrom false false ls, fun i hpos hlt => ?_, ?_, ?_⟩
  · obtain ⟨i, rfl⟩ : ∃ j, i = j + 1 := ⟨i - 1, by omega⟩
    rw [hruns, getElem?_closeRuns (by rw [List.length_cons]; omega), hn]
    simp only [List.getElem?_cons_succ]
  · rw [← head?_blankRuns_iff, hruns]
    cases runs <;> simp [closeRuns]
  · rw [← getLast?_blankRuns_iff, hruns]
    exact getLast?_closeRuns (List.cons_ne_nil 0 runs)

/-- The runs of blank lines in a normal form. -/
lemma NormalForm.getElem?_blankRuns (h : NormalForm unit ls lines) (i : Nat) :
    (blankRuns lines)[i]? =
      if i = 0 ∨ i = (filled ls).length then some 0
      else if i < (filled ls).length then
        some (if (blankRuns (ls.map Prod.snd))[i]? = some 0 then 0 else 1)
      else none := by
  have hlength : (blankRuns lines).length = (filled ls).length + 1 := by
    rw [length_blankRuns, h.texts, List.length_map]
  by_cases hend : i = 0 ∨ i = (filled ls).length
  · rw [if_pos hend]
    rcases hend with rfl | rfl
    · rw [← List.head?_eq_getElem?]
      exact head?_blankRuns_iff.mpr h.first
    · rw [← getLast?_blankRuns_iff.mpr h.last, List.getLast?_eq_getElem?, hlength,
        Nat.add_sub_cancel]
  · rw [if_neg hend]
    by_cases hlt : i < (filled ls).length
    · rw [if_pos hlt, h.between i (by omega) hlt]
    · rw [if_neg hlt, List.getElem?_eq_none (by omega)]

/-- There is one normal form only. -/
lemma NormalForm.unique (h : NormalForm unit ls lines) (h' : NormalForm unit ls lines') :
    lines = lines' := by
  refine eq_of_blankRuns (h.texts.trans h'.texts.symm) (List.ext_getElem? fun i => ?_)
  rw [h.getElem?_blankRuns, h'.getElem?_blankRuns]

example : layOut (.spaces 2)
    [.blank, .dedent, .enter "a", .nested [.indent, .line "b", .blank], .line "", .leave "c"] =
      ["a", "    b", "", "c"] := by
  decide +kernel

end Beans.Layout
