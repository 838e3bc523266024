import Mathlib.Data.List.Basic
import Mathlib.Tactic.Common
import Beans.Text.Blank
import Beans.Text.Lines

/-!
# Lines that end at line feeds

When only a line feed ends a line, two texts with a line feed between them have the lines of both.
The carriage return of a terminator and an empty last line make no difference to trimmed lines but
for an empty one at the seam.

## Main definitions

* `Beans.Text.trimmedLines` — the lines of a text without the blanks around them.

## Main results

* `Beans.Text.trimmedLines_append` — the trimmed lines of two texts, one below the other.
-/

set_option autoImplicit false

namespace Beans.Text

variable {held cs ds : List Char} {c : Char}

/-! ## Pieces between line feeds -/

lemma cutFeeds_ne_nil (held cs : List Char) : cutFeeds held cs ≠ [] := by
  fun_induction cutFeeds held cs with
  | case1 => simp
  | case2 => simp
  | case3 _ _ _ _ ih => exact ih

/-- A text is cut at a line feed, and on both sides of it. -/
lemma cutFeeds_append (held cs ds : List Char) :
    cutFeeds held (cs ++ '\n' :: ds) = cutFeeds held cs ++ cutFeeds [] ds := by
  fun_induction cutFeeds held cs with
  | case1 held => simp [cutFeeds]
  | case2 held cs ih => simp [cutFeeds, ih]
  | case3 held c cs hc ih =>
    rw [List.cons_append, cutFeeds, ih]
    exact hc

/-! ## Trimmed texts -/

lemma dropBlankEnd_concat (cs : List Char) (hc : isBlank c = true) :
    dropBlankEnd (cs ++ [c]) = dropBlankEnd cs := by
  induction cs with
  | nil => simp [dropBlankEnd, hc]
  | cons d cs ih => rw [List.cons_append, dropBlankEnd, ih, dropBlankEnd]

/-- A blank character at the end does not matter for the trimmed text. -/
lemma trim_concat (cs : List Char) (hc : isBlank c = true) :
    trim (String.ofList (cs ++ [c])) = trim (String.ofList cs) := by
  simp only [trim, String.toList_ofList, dropBlank, List.dropWhile_append]
  split
  · next hempty =>
    rw [List.isEmpty_iff] at hempty
    simp [hempty, hc]
  · rw [dropBlankEnd_concat _ hc]

lemma trim_dropReturn (cs : List Char) :
    trim (String.ofList (dropReturn cs)) = trim (String.ofList cs) := by
  unfold dropReturn
  split
  · next hlast =>
    obtain ⟨init, rfl⟩ := List.getLast?_eq_some_iff.mp hlast
    rw [List.dropLast_concat, trim_concat init (by decide)]
  · rfl

/-! ## Trimmed lines -/

/-- The lines of a text that end at line feeds, without the blanks around them. -/
def trimmedLines (s : String) : List String := (feedLines s).map trim

/-- A piece of a text as a trimmed line. -/
def trimmedPiece (cs : List Char) : String := trim (String.ofList cs)

/-- The trimmed lines are the trimmed pieces, but for an empty last one. -/
lemma map_trimmedPiece_cutFeeds (s : String) :
    ∃ last, (∀ line ∈ last, line = "") ∧
      (cutFeeds [] s.toList).map trimmedPiece = trimmedLines s ++ last := by
  obtain ⟨init, piece, hpieces⟩ := (cutFeeds [] s.toList).eq_nil_or_concat.resolve_left
    (cutFeeds_ne_nil [] s.toList)
  rw [List.concat_eq_append] at hpieces
  have hinit : (init.map dropReturn).map (trim ∘ String.ofList) = init.map trimmedPiece := by
    rw [List.map_map]
    exact List.map_congr_left fun cs _ => trim_dropReturn cs
  simp only [trimmedLines, feedLines, hpieces, List.dropLast_concat, List.getLast?_concat,
    Option.getD_some, List.map_map]
  split
  · next hempty =>
    refine ⟨[""], by simp, ?_⟩
    rw [List.isEmpty_iff] at hempty
    rw [hinit, hempty, List.map_append]
    rfl
  · refine ⟨[], by simp, ?_⟩
    rw [List.append_nil, List.map_append, List.map_append, hinit]
    rfl

/-- **Trimmed lines of two texts.** A text below another one has the lines of both; there may be an
empty line between them. -/
theorem trimmedLines_append (s t : String) :
    ∃ gap, (∀ line ∈ gap, line = "") ∧
      trimmedLines (s ++ "\n" ++ t) = trimmedLines s ++ gap ++ trimmedLines t := by
  obtain ⟨gap, hgap, hpieces⟩ := map_trimmedPiece_cutFeeds s
  refine ⟨gap, hgap, ?_⟩
  have hne := cutFeeds_ne_nil [] t.toList
  have hcut : cutFeeds [] (s ++ "\n" ++ t).toList =
      cutFeeds [] s.toList ++ cutFeeds [] t.toList := by
    rw [← cutFeeds_append]
    simp
  have hlines : feedLines (s ++ "\n" ++ t) =
      ((cutFeeds [] s.toList).map dropReturn).map String.ofList ++ feedLines t := by
    simp only [feedLines, hcut, List.dropLast_append_of_ne_nil hne, List.getLast?_append_of_ne_nil _ hne,
      List.map_append]
    split <;> simp
  rw [trimmedLines, hlines, List.map_append, ← hpieces, List.map_map, List.map_map]
  congr 1
  exact List.map_congr_left fun cs _ => trim_dropReturn cs

end Beans.Text
