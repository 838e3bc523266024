import Mathlib.Tactic.Common
import Beans.Proofs.Region.Marker

/-!
# Replacing the region

A body is put between two markers, and the lines around them are those that were kept. As none of
these is a marker, the new block is found where it was put, its body is read as it was written, and
to put the same body in its place once more changes nothing.

## Main definitions

* `Beans.keptHead`, `Beans.keptTail` — the lines that are kept before and after a new block.
* `Beans.gapBefore`, `Beans.gapAfter` — the blank lines around a new block.

## Main results

* `Beans.splice_eq_block` — a new block stands between the kept lines and the blank ones.
* `Beans.splice_stable` — what is found after a body was put in place.
-/

set_option autoImplicit false

namespace Beans

open Text

/-! ## Known markers -/

namespace Region

variable {before body after rest : List String} {marker line : String} {i : Nat}

lemma Unmarked.append (hbefore : Unmarked before) (hafter : Unmarked after) :
    Unmarked (before ++ after) :=
  List.forall_mem_append.mpr ⟨hbefore, hafter⟩

/-- Among lines that are not that marker, a marker stands where it was put. -/
lemma markerAt_between (hbefore : ∀ l ∈ before, trim l ≠ marker) (hline : trim line = marker)
    (hafter : ∀ l ∈ after, trim l ≠ marker) :
    MarkerAt marker (before ++ line :: after) i ↔ i = before.length := by
  rcases Nat.lt_trichotomy i before.length with hlt | rfl | hgt
  · rw [markerAt_append_iff hlt]
    exact iff_of_false (forall_ne_iff.mp hbefore i) (by omega)
  · exact iff_of_true (markerAt_length_iff.mpr hline) rfl
  · obtain ⟨k, rfl⟩ : ∃ k, i = before.length + (k + 1) := ⟨i - before.length - 1, by omega⟩
    refine iff_of_false ?_ (by omega)
    rintro ⟨l, hl, hmarker⟩
    rw [List.getElem?_append_right (by omega), Nat.add_sub_cancel_left, List.getElem?_cons_succ]
      at hl
    exact hafter l (List.mem_of_getElem? hl) hmarker

/-- Among lines without markers, a region is where its markers were put. -/
theorem marks_between (hbefore : Unmarked before) (hbody : Unmarked body)
    (hafter : Unmarked after) :
    Marks (before ++ startMarker :: (body ++ endMarker :: after))
      ⟨before.length, before.length + 1 + body.length⟩ where
  start_iff i := by
    refine markerAt_between (fun l hl => (hbefore l hl).1) trim_startMarker fun l hl => ?_
    rcases List.mem_append.mp hl with hl | hl
    · exact (hbody l hl).1
    · rcases List.mem_cons.mp hl with rfl | hl
      · rw [trim_endMarker]
        exact start_ne_end.symm
      · exact (hafter l hl).1
  stop_iff i := by
    have hlines : before ++ startMarker :: (body ++ endMarker :: after) =
        (before ++ startMarker :: body) ++ endMarker :: after := by simp
    have hlength : before.length + 1 + body.length = (before ++ startMarker :: body).length := by
      simp only [List.length_append, List.length_cons]
      omega
    rw [hlines, hlength]
    refine markerAt_between (fun l hl => ?_) trim_endMarker fun l hl => (hafter l hl).2
    rcases List.mem_append.mp hl with hl | hl
    · exact (hbefore l hl).2
    · rcases List.mem_cons.mp hl with rfl | hl
      · rw [trim_startMarker]
        exact start_ne_end
      · exact (hbody l hl).2
  start_lt_stop := by simp only; omega

/-- Before and after a region there are no markers. -/
lemma Marks.unmarked_around {lines : List String} {r : Region} (h : Marks lines r) :
    Unmarked (lines.take r.start) ∧ Unmarked (lines.drop (r.stop + 1)) := by
  have hlt := h.start_lt_stop
  -- a marker that is left is a marker of the lines, at its own place
  have hleft {marker : String} {i : Nat} (hi : MarkerAt marker (lines.take r.start) i) :
      i < r.start ∧ MarkerAt marker lines i := by
    obtain ⟨l, hl, hmarker⟩ := hi
    rw [List.getElem?_take] at hl
    split at hl
    · exact ⟨‹_›, l, hl, hmarker⟩
    · cases hl
  have hright {marker : String} {i : Nat} (hi : MarkerAt marker (lines.drop (r.stop + 1)) i) :
      MarkerAt marker lines (r.stop + 1 + i) := by
    obtain ⟨l, hl, hmarker⟩ := hi
    exact ⟨l, List.getElem?_drop ▸ hl, hmarker⟩
  refine ⟨unmarked_iff.mpr ⟨fun i hi => ?_, fun i hi => ?_⟩,
    unmarked_iff.mpr ⟨fun i hi => ?_, fun i hi => ?_⟩⟩
  · have := (h.start_iff i).mp (hleft hi).2
    have := (hleft hi).1
    omega
  · have := (h.stop_iff i).mp (hleft hi).2
    have := (hleft hi).1
    omega
  · have := (h.start_iff _).mp (hright hi)
    omega
  · have := (h.stop_iff _).mp (hright hi)
    omega

end Region

/-! ## Kept lines -/

/-- The lines that are kept before a new block. -/
def keptHead (lines : List Line) (region : Option Region) (anchor : Nat) : List Line :=
  lines.take (keptBounds lines.length region anchor).1

/-- The lines that are kept after a new block. -/
def keptTail (lines : List Line) (region : Option Region) (anchor : Nat) : List Line :=
  lines.drop (keptBounds lines.length region anchor).2

/-- A blank line before a new block, unless it takes the place of an old one. -/
def gapBefore (region : Option Region) : List Line :=
  if region.isNone then [bareLine ""] else []

/-- A blank line after a new block, unless it takes the place of an old one or a blank line or
nothing follows. -/
def gapAfter (region : Option Region) (tail : List Line) : List Line :=
  if region.isNone && tail.head?.any (fun next => !isBlankText next.text) then [bareLine ""] else []

lemma gapAfter_none (tail : List Line) : gapAfter none tail = match tail with
    | next :: _ => if isBlankText next.text then [] else [bareLine ""]
    | [] => [] := by
  cases tail with
  | nil => rfl
  | cons next rest => by_cases hblank : isBlankText next.text <;> simp [gapAfter, hblank]

/-- A new block stands between the kept lines and the blank ones. -/
theorem splice_eq_block (lines : List Line) (region : Option Region) (anchor : Nat)
    (body : List String) :
    splice lines region anchor body =
      (keptHead lines region anchor ++ gapBefore region) ++ markedBlock body ++
        (gapAfter region (keptTail lines region anchor) ++ keptTail lines region anchor) := by
  cases region with
  | some r => simp [splice, keptHead, keptTail, gapBefore, gapAfter]
  | none =>
    have hlines : splice lines none anchor body = keptHead lines none anchor ++
        bareLine "" :: markedBlock body ++ gapAfter none (keptTail lines none anchor) ++
          keptTail lines none anchor := by
      rw [gapAfter_none]
      rfl
    simp [hlines, gapBefore]

section

variable {lines : List Line} {region : Option Region}

lemma unmarked_gap {gap : List Line} (h : gap = [bareLine ""] ∨ gap = []) :
    Region.Unmarked (gap.map Line.text) := by
  rcases h with rfl | rfl
  · intro l hl
    obtain rfl := List.mem_singleton.mp hl
    decide +kernel
  · intro l hl
    cases hl

/-- Before a new block there are no markers: the old ones are not kept. -/
lemma unmarked_before (hfind : Region.find (lines.map Line.text) = .ok region) (anchor : Nat) :
    Region.Unmarked ((keptHead lines region anchor ++ gapBefore region).map Line.text) := by
  have hanswer := Region.find_eq_iff.mp hfind
  rw [List.map_append]
  refine Region.Unmarked.append ?_ (unmarked_gap (ite_eq_or_eq _ _ _))
  rw [keptHead, List.map_take]
  cases region with
  | none => exact fun l hl => hanswer l (List.mem_of_mem_take hl)
  | some r => exact (Region.Marks.unmarked_around hanswer).1

/-- After a new block there are none either. -/
lemma unmarked_after (hfind : Region.find (lines.map Line.text) = .ok region) (anchor : Nat) :
    Region.Unmarked ((gapAfter region (keptTail lines region anchor) ++
      keptTail lines region anchor).map Line.text) := by
  have hanswer := Region.find_eq_iff.mp hfind
  rw [List.map_append]
  refine Region.Unmarked.append (unmarked_gap (ite_eq_or_eq _ _ _)) ?_
  rw [keptTail, List.map_drop]
  cases region with
  | none => exact fun l hl => hanswer l (List.mem_of_mem_drop hl)
  | some r => exact (Region.Marks.unmarked_around hanswer).2

end

/-! ## The new block -/

section

variable (before : List Line) (body : List String) (after : List Line)

lemma length_markedBlock : (markedBlock body).length = body.length + 2 := by simp [markedBlock]

lemma map_text_block : (before ++ markedBlock body ++ after).map Line.text =
    before.map Line.text ++ startMarker :: (body ++ endMarker :: after.map Line.text) := by
  simp [markedBlock, bareLine, Function.comp_def]

/-- The lines before a block and those after it, by the places of its markers. -/
lemma around_block :
    (before ++ markedBlock body ++ after).take before.length = before ∧
      (before ++ markedBlock body ++ after).drop (before.length + 1 + body.length + 1) = after := by
  constructor
  · rw [List.append_assoc, List.take_left' rfl]
  · rw [List.drop_left']
    rw [List.length_append, length_markedBlock]
    omega

/-- A body takes the place of another one between the same lines. -/
lemma splice_block (old : List String) (anchor : Nat) :
    splice (before ++ markedBlock old ++ after)
        (some ⟨before.length, before.length + 1 + old.length⟩) anchor body =
      before ++ markedBlock body ++ after := by
  obtain ⟨hfront, hback⟩ := around_block before old after
  simp only [splice, keptBounds, hfront, hback]

end

/-- **Replacing the region is stable.** A body without markers is put into lines whose markers are in
order. In the new lines a region is found, and its body is the one that was put in. Before it are the
kept lines, with one blank line if there was no region; after it are the kept lines, with one blank
line before them if there was no region and the first of them is not blank. To put the body in its
place again changes nothing. -/
theorem splice_stable {lines : List Line} {region : Option Region} {body : List String}
    (hfind : Region.find (lines.map Line.text) = .ok region) (hbody : Region.Unmarked body)
    (anchor : Nat) :
    ∃ r, Region.find ((splice lines region anchor body).map Line.text) = .ok (some r) ∧
      r.body ((splice lines region anchor body).map Line.text) = body ∧
      sameBody (r.body ((splice lines region anchor body).map Line.text)) body = true ∧
      (splice lines region anchor body).take r.start =
        keptHead lines region anchor ++ gapBefore region ∧
      (splice lines region anchor body).drop (r.stop + 1) =
        gapAfter region (keptTail lines region anchor) ++ keptTail lines region anchor ∧
      ∀ again, splice (splice lines region anchor body) (some r) again body =
        splice lines region anchor body := by
  have hbefore := unmarked_before hfind anchor
  have hafter := unmarked_after hfind anchor
  rw [splice_eq_block]
  generalize keptHead lines region anchor ++ gapBefore region = before at hbefore ⊢
  generalize gapAfter region (keptTail lines region anchor) ++ keptTail lines region anchor = after
    at hafter ⊢
  have hmarks := Region.marks_between hbefore hbody hafter
  have hinner := Region.body_between (before.map Line.text) body (after.map Line.text) startMarker
    endMarker
  rw [← map_text_block, List.length_map] at hmarks hinner
  obtain ⟨hfront, hback⟩ := around_block before body after
  refine ⟨⟨before.length, before.length + 1 + body.length⟩, Region.find_eq_iff.mpr hmarks, hinner,
    ?_, hfront, hback, splice_block before body after body⟩
  rw [hinner]
  exact sameBody_self body

/-- A body is put behind the last line, though the anchor is beyond it, and takes the place of an old
one with other blanks around its markers. -/
theorem splice_stable_instances :
    (∃ r, Region.find ((splice [bareLine "struct A;"] none 7 ["impl A \x7b\x7d"]).map Line.text) =
        .ok (some r) ∧
      splice (splice [bareLine "struct A;"] none 7 ["impl A \x7b\x7d"]) (some r) 0 ["impl A \x7b\x7d"] =
        splice [bareLine "struct A;"] none 7 ["impl A \x7b\x7d"]) ∧
    ∃ r, Region.find ((splice [bareLine (" " ++ startMarker), bareLine endMarker, bareLine "tail"]
        (some ⟨0, 1⟩) 0 ["new"]).map Line.text) = .ok (some r) ∧
      (splice [bareLine (" " ++ startMarker), bareLine endMarker, bareLine "tail"]
        (some ⟨0, 1⟩) 0 ["new"]).drop (r.stop + 1) = [bareLine "tail"] := by
  have hunmarked (line : String) (h : trim line ≠ startMarker ∧ trim line ≠ endMarker) :
      Region.Unmarked [line] := fun l hl => List.mem_singleton.mp hl ▸ h
  constructor
  · have hfind : Region.find ([bareLine "struct A;"].map Line.text) = .ok none := by decide +kernel
    obtain ⟨r, hfound, -, -, -, -, hagain⟩ :=
      splice_stable hfind (hunmarked "impl A \x7b\x7d" (by decide +kernel)) 7
    exact ⟨r, hfound, hagain 0⟩
  · have hfind : Region.find ([bareLine (" " ++ startMarker), bareLine endMarker,
        bareLine "tail"].map Line.text) = .ok (some ⟨0, 1⟩) := by decide +kernel
    obtain ⟨r, hfound, -, -, -, hafter, -⟩ :=
      splice_stable hfind (hunmarked "new" (by decide +kernel)) 0
    exact ⟨r, hfound, hafter⟩

end Beans
