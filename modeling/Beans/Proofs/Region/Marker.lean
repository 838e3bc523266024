import Mathlib.Tactic.Common
import Beans.Proofs.Region.Search
import Beans.Proofs.Text.Lines

/-!
# Finding the region again

If the markers of some lines are in order, there is one of each. So wherever a start marker and an
end marker are known to stand, the region is between them. In particular a marked block is found
where it was put, whatever the lines around it hold, and its body is read as it was written.

## Main results

* `Beans.Region.markers_of_find` — what stands at the places of a region.
* `Beans.Region.find_eq_of_markers` — the region is between markers that are known.
* `Beans.Region.unmarked_of_find` — lines without a region have no markers.
* `Beans.texts_markedBlock` — a marked block is read again line by line.
* `Beans.sameBody_insert` — a body with one more significant line is another body.
-/

set_option autoImplicit false

namespace Beans

open Text

/-! ## Known markers -/

namespace Region

variable {found : Option Region} {lines : List String}

/-- The region is between markers that are known. -/
theorem find_eq_of_markers {before body after : List String} {startLine stopLine : String}
    (hstart : trim startLine = startMarker) (hstop : trim stopLine = endMarker)
    (h : find (before ++ startLine :: (body ++ stopLine :: after)) = .ok found) :
    found = some ⟨before.length, before.length + 1 + body.length⟩ := by
  have hanswer := find_eq_iff.mp h
  cases found with
  | none => exact absurd hstart (hanswer startLine (by simp)).1
  | some r =>
    have hfirst : before.length = r.start :=
      (hanswer.start_iff _).mp (markerAt_length_iff.mpr hstart)
    have hlines : before ++ startLine :: (body ++ stopLine :: after) =
        (before ++ startLine :: body) ++ stopLine :: after := by simp
    have hlast : (before ++ startLine :: body).length = r.stop :=
      (hanswer.stop_iff _).mp (hlines ▸ markerAt_length_iff.mpr hstop)
    have hlength : (before ++ startLine :: body).length = before.length + 1 + body.length := by
      simp only [List.length_append, List.length_cons]
      omega
    rw [← hlength, hlast, hfirst]

/-- At the places of a region stand the markers. -/
theorem markers_of_find {r : Region} (h : find lines = .ok (some r)) :
    ∃ before startLine body stopLine after,
      lines = before ++ startLine :: (body ++ stopLine :: after) ∧
      trim startLine = startMarker ∧ trim stopLine = endMarker ∧
      r = ⟨before.length, before.length + 1 + body.length⟩ := by
  have hmarks : Marks lines r := find_eq_iff.mp h
  obtain ⟨startLine, hstartLine, hstart⟩ := (hmarks.start_iff _).mpr rfl
  obtain ⟨stopLine, hstopLine, hstop⟩ := (hmarks.stop_iff _).mpr rfl
  have hcut : lines = lines.take r.start ++ startLine ::
      (r.body lines ++ stopLine :: lines.drop (r.stop + 1)) := by
    obtain ⟨hlast, rfl⟩ := List.getElem?_eq_some_iff.mp hstopLine
    have happend := hmarks.append_body
    rw [List.take_add_one, hstartLine, List.drop_eq_getElem_cons hlast] at happend
    simpa using happend.symm
  refine ⟨_, startLine, r.body lines, stopLine, _, hcut, hstart, hstop, ?_⟩
  rw [hcut] at h
  exact Option.some.inj (find_eq_of_markers hstart hstop h)

/-- Without a region there are no markers. -/
theorem unmarked_of_find (h : find lines = .ok none) :
    ∀ l ∈ lines, trim l ≠ startMarker ∧ trim l ≠ endMarker := find_eq_iff.mp h

/-- The lines between two places. -/
lemma body_between {α : Type} (before inner after : List α) (first last : α) :
    Region.body ⟨before.length, before.length + 1 + inner.length⟩
      (before ++ first :: (inner ++ last :: after)) = inner := by
  have hlines : before ++ first :: (inner ++ last :: after) =
      ((before ++ [first]) ++ inner) ++ last :: after := by simp
  have hstart : before.length + 1 = (before ++ [first]).length := by simp
  rw [body, hlines, hstart, ← List.length_append, List.take_left' rfl, List.drop_left' rfl]

end Region

/-! ## Marked blocks -/

lemma trim_startMarker : trim startMarker = startMarker := by decide +kernel

lemma trim_endMarker : trim endMarker = endMarker := by decide +kernel

lemma singleLine_startMarker : SingleLine startMarker := by decide +kernel

lemma singleLine_endMarker : SingleLine endMarker := by decide +kernel

section

variable {eol : Ending} (heol : eol ≠ .none) (terminated : Bool)

include heol

/-- Joined lines start with the text of the first, and nothing or a terminator follows. -/
lemma joinLines_bareLine (t : String) (ls : List Line) :
    ∃ rest, joinLines eol terminated (bareLine t :: ls) = t.toList ++ rest ∧
      ∀ c ∈ rest.head?, isBreak c = true := by
  have hends : ∀ cs : List Char, ∀ c ∈ (eol.chars ++ cs).head?, isBreak c = true := by
    intro cs c hc
    cases eol with
    | none => exact absurd rfl heol
    | feed | returnFeed | carriage =>
      obtain rfl : _ = c := Option.some.inj hc
      rfl
  cases ls with
  | nil =>
    refine ⟨_, rfl, ?_⟩
    cases terminated with
    | false => simp [bareLine]
    | true => simpa [bareLine] using hends []
  | cons l ls =>
    refine ⟨eol.chars ++ joinLines eol terminated (l :: ls), ?_, hends _⟩
    simp [joinLines, bareLine]

/-- Joined lines that start with a marker do not start with a line feed. -/
lemma head_joinLines_marker {marker : String}
    (hmarker : marker = startMarker ∨ marker = endMarker) (ls : List Line) :
    (joinLines eol terminated (bareLine marker :: ls)).head? ≠ some '\n' := by
  obtain ⟨rest, hjoin, -⟩ := joinLines_bareLine heol terminated marker ls
  have hchars : ∃ cs, marker.toList = '/' :: cs := by
    rcases hmarker with rfl | rfl
    · exact ⟨_, rfl⟩
    · exact ⟨_, rfl⟩
  obtain ⟨cs, hcs⟩ := hchars
  rw [hjoin, hcs]
  simp

/-- A marked block with a body on single lines is read again line by line, whatever stands before it
and after it. -/
theorem texts_markedBlock (head tail : List Line) {body : List String}
    (hbody : ∀ t ∈ body, SingleLine t) :
    ∃ before after, (splitLines (String.ofList
        (joinLines eol terminated (head ++ markedBlock body ++ tail)))).map Line.text =
      before ++ startMarker :: (body ++ endMarker :: after) := by
  have hblock : head ++ markedBlock body ++ tail =
      head ++ ((startMarker :: body).map bareLine ++ bareLine endMarker :: tail) := by
    simp [markedBlock]
  have hlines : ∀ t ∈ startMarker :: body, SingleLine t :=
    List.forall_mem_cons.mpr ⟨singleLine_startMarker, hbody⟩
  obtain ⟨before, hbefore⟩ := readLines_joined terminated heol head (List.cons_ne_nil _ _)
    (head_joinLines_marker heol terminated (.inl rfl)
      (body.map bareLine ++ bareLine endMarker :: tail))
  have hinner := readLines_bare terminated heol hlines (List.cons_ne_nil (bareLine endMarker) tail)
    (head_joinLines_marker heol terminated (.inr rfl) tail)
  obtain ⟨rest, hjoin, hrest⟩ := joinLines_bareLine heol terminated endMarker tail
  obtain ⟨e, after, hafter⟩ := readLines_first singleLine_endMarker (by decide +kernel) hrest
  refine ⟨before.map Line.text, after.map Line.text, ?_⟩
  rw [hblock, splitLines, String.toList_ofList, List.map_cons, List.cons_append, hbefore]
  change (before ++ readLines [] (joinLines eol terminated
    ((startMarker :: body).map (⟨·, .none⟩) ++ bareLine endMarker :: tail))).map Line.text = _
  rw [hinner, hjoin, hafter]
  simp [Function.comp_def]

end

/-! ## Bodies -/

lemma sameBody_self (body : List String) : sameBody body body = true := by simp [sameBody]

/-- A body with one more significant line is another body. -/
theorem sameBody_insert {line : String} (hline : trim line ≠ "#[inline]")
    (before gap after : List String) :
    sameBody (before ++ line :: (gap ++ after)) (before ++ after) = false := by
  have hlength : (significantLines (before ++ after)).length <
      (significantLines (before ++ line :: (gap ++ after))).length := by
    have hcounts : decide (trim line ≠ "#[inline]") = true := decide_eq_true hline
    simp only [significantLines, List.length_map, List.filter_append, List.length_append,
      List.filter_cons, hcounts, if_true, List.length_cons]
    omega
  unfold sameBody
  rw [beq_eq_false_iff_ne]
  intro heq
  rw [heq] at hlength
  exact Nat.lt_irrefl _ hlength

end Beans
