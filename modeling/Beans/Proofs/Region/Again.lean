import Beans.Proofs.Region.Imports
import Beans.Proofs.Region.Marker
import Beans.Region.Rewrite

/-!
# Regenerating a text again

A text that was regenerated is to be up to date: its generated lines are found where they were put,
and they are the code of its bean. This holds if the new text is read as the old one was, and if the
line that was added for imports stands outside of the code. The place of that line is counted in the
old lines, though, while the code before it may have become longer: it can get between the markers.

Code with a line break inside of a line, as a text in a type can have it, is not treated here: it is
not read line by line as it was written.

## Main definitions

* `Beans.SourceReading.ImportOutside` — the import is put outside of the marked block.
* `Beans.Rewrites` — a text is regenerated, and its code has no line breaks within lines.
* `Beans.ReadAlike` — the new text is read as declaring the same bean, with all names in scope.

## Main results

* `Beans.SourceReading.freshLines_eq` — what stands between the markers of the fresh lines.
* `Beans.regenerate_again` — when a regenerated text is up to date.
-/

set_option autoImplicit false

namespace Beans

open Syntax Text

/-! ## Readings -/

section

variable {s : Settings} {texts : List String} {r : SourceReading}

/-- The file, the bean, the region and the code of a reading. -/
lemma SourceReading.of_ofLines (h : SourceReading.ofLines s texts = .ok (some r)) :
    readSource? (plainText texts) = some r.file ∧ findBean r.file = some r.bean ∧
      Region.find texts = .ok r.region ∧
      ∃ supplied, Generated.ofDeclaration r.bean supplied s .source = .ok r.generated := by
  unfold SourceReading.ofLines at h
  split at h
  · cases h
  split at h
  · cases h
  split at h
  · cases h
  split at h
  · cases h
  · rename_i hfile _ _ hbean _ _ hregion _ _ hgenerated
    cases h
    exact ⟨hfile, hbean, hregion, _, hgenerated⟩

/-- A missing name is on one line. -/
lemma SourceReading.singleLine_missing (h : SourceReading.ofLines s texts = .ok (some r)) :
    ∀ name ∈ r.missing, SingleLine name := by
  intro name hname
  obtain ⟨-, -, -, supplied, hgenerated⟩ := SourceReading.of_ofLines h
  have himport : name ∈ r.generated.imports := by
    unfold SourceReading.missing missingNames at hname
    split at hname
    · cases hname
    · exact (List.mem_filter.mp hname).1
  obtain ⟨item, rfl⟩ := Generated.exists_head hgenerated himport
  exact singleLine_head item

end

/-! ## Fresh lines -/

/-- A body is put between lines that do not depend on it. -/
lemma splice_eq (lines : List Line) (region : Option Region) (anchor : Nat) :
    ∃ head tail : List Line,
      (∀ body, splice lines region anchor body = head ++ markedBlock body ++ tail) ∧
      head.length = min (keptBounds lines.length region anchor).1 lines.length +
        if region.isSome then 0 else 1 := by
  cases region with
  | some region => exact ⟨_, _, fun body => rfl, by simp [keptBounds]⟩
  | none =>
    obtain ⟨tail, htail⟩ : ∃ tail, ∀ body, splice lines none anchor body =
        lines.take (min (anchor + 1) lines.length) ++ (bareLine "" :: markedBlock body) ++ tail :=
      ⟨_, fun body => List.append_assoc _ _ _⟩
    refine ⟨lines.take (min (anchor + 1) lines.length) ++ [bareLine ""], tail, fun body => ?_, ?_⟩
    · simp [htail body]
    · simp [keptBounds]

/-- An import is put between the lines before its place and those from it on. -/
lemma insertImport_eq (index : Nat) (names : List String) (lines : List Line) :
    ∃ gap, gap.Sublist [""] ∧ insertImport index names lines =
      lines.take index ++ (importLine names :: gap).map bareLine ++ lines.drop index := by
  unfold insertImport
  cases lines.drop index with
  | nil => exact ⟨[], by simp⟩
  | cons next rest =>
    by_cases hfollows : followsImport next
    · exact ⟨[], by simp [hfollows]⟩
    · exact ⟨[""], by simp [hfollows]⟩

section

variable {index : Nat} (names : List String) {head : List Line}

lemma insertImport_before (h : index ≤ head.length) (rest : List Line) :
    ∃ longer, insertImport index names (head ++ rest) = longer ++ rest := by
  obtain ⟨gap, -, hinsert⟩ := insertImport_eq index names (head ++ rest)
  refine ⟨head.take index ++ (importLine names :: gap).map bareLine ++ head.drop index, ?_⟩
  rw [hinsert, List.take_append_of_le_length h, List.drop_append_of_le_length h]
  simp only [List.append_assoc]

lemma insertImport_after (h : head.length ≤ index) (tail : List Line) :
    ∃ longer, insertImport index names (head ++ tail) = head ++ longer := by
  obtain ⟨gap, -, hinsert⟩ := insertImport_eq index names (head ++ tail)
  refine ⟨tail.take (index - head.length) ++ (importLine names :: gap).map bareLine ++
    tail.drop (index - head.length), ?_⟩
  rw [hinsert, List.take_append, List.drop_append, List.take_of_length_le h,
    List.drop_eq_nil_of_le h]
  simp only [List.append_assoc, List.nil_append]

/-- An import with its place after a start marker, but not after the end marker, gets into the
body. -/
lemma insertImport_within {body : List String} (hstart : head.length < index)
    (hend : index < head.length + (body.length + 2)) (tail : List Line) :
    ∃ before gap after, body = before ++ after ∧ gap ⊆ [""] ∧
      insertImport index names (head ++ markedBlock body ++ tail) =
        head ++ markedBlock (before ++ importLine names :: (gap ++ after)) ++ tail := by
  obtain ⟨before, after, rfl, hlength⟩ :
      ∃ before after, body = before ++ after ∧ before.length = index - head.length - 1 :=
    ⟨_, _, (List.take_append_drop (index - head.length - 1) body).symm, by simp; omega⟩
  have hplace : (head ++ (startMarker :: before).map bareLine).length = index := by
    simp [hlength]
    omega
  have hlines : head ++ markedBlock (before ++ after) ++ tail =
      (head ++ (startMarker :: before).map bareLine) ++
        ((after ++ [endMarker]).map bareLine ++ tail) := by
    simp [markedBlock]
  obtain ⟨gap, hgap, hinsert⟩ :=
    insertImport_eq index names (head ++ markedBlock (before ++ after) ++ tail)
  refine ⟨before, gap, after, rfl, hgap.subset, ?_⟩
  rw [hinsert, hlines, List.take_left' hplace, List.drop_left' hplace]
  simp [markedBlock]

end

namespace SourceReading

variable (r : SourceReading) (s : Settings) (lines : List Line)

/-- The number of lines before the marked block. -/
def blockStart : Nat :=
  min (keptBounds lines.length r.region (structEnd r.bean - 1)).1 lines.length +
    if r.region.isSome then 0 else 1

/-- The import, if one is needed, is put before the marked block or after it. -/
def ImportOutside : Prop :=
  r.missing = [] ∨ r.importPlace ≤ r.blockStart lines ∨
    r.blockStart lines + (r.body s).length + 2 ≤ r.importPlace

/-- Between the markers of the fresh lines stands the code, with the import within if that is not
put outside. -/
theorem freshLines_eq :
    ∃ head body tail, r.freshLines s lines = head ++ markedBlock body ++ tail ∧
      (r.ImportOutside s lines → body = r.body s) ∧
      (¬ r.ImportOutside s lines → ∃ before gap after, r.body s = before ++ after ∧ gap ⊆ [""] ∧
        body = before ++ importLine r.missing :: (gap ++ after)) := by
  obtain ⟨head, tail, hsplice, hhead⟩ := splice_eq lines r.region (structEnd r.bean - 1)
  have hspliced : r.splicedLines s lines = head ++ markedBlock (r.body s) ++ tail := hsplice _
  have hblock : (head ++ markedBlock (r.body s)).length = head.length + (r.body s).length + 2 := by
    simp [markedBlock, Nat.add_assoc]
  change head.length = r.blockStart lines at hhead
  unfold freshLines ImportOutside
  rw [hspliced, ← hhead]
  by_cases hnone : r.missing = []
  · exact ⟨head, r.body s, tail, by simp [hnone], fun _ => rfl, fun h => absurd (.inl hnone) h⟩
  rw [if_neg (by simpa using hnone)]
  by_cases hbefore : r.importPlace ≤ head.length
  · obtain ⟨longer, hlonger⟩ :=
      insertImport_before r.missing hbefore (markedBlock (r.body s) ++ tail)
    exact ⟨longer, r.body s, tail, by rw [List.append_assoc, hlonger, List.append_assoc],
      fun _ => rfl, fun h => absurd (.inr (.inl hbefore)) h⟩
  by_cases hafter : head.length + (r.body s).length + 2 ≤ r.importPlace
  · obtain ⟨longer, hlonger⟩ := insertImport_after r.missing (hblock ▸ hafter) tail
    exact ⟨head, r.body s, longer, hlonger, fun _ => rfl, fun h => absurd (.inr (.inr hafter)) h⟩
  · have hwithin : r.importPlace < head.length + ((r.body s).length + 2) := by omega
    obtain ⟨before, gap, after, hbody, hgap, hinsert⟩ :=
      insertImport_within r.missing (Nat.lt_of_not_le hbefore) hwithin tail
    refine ⟨head, _, tail, hinsert, fun h => ?_, fun _ => ⟨before, gap, after, hbody, hgap, rfl⟩⟩
    exact absurd h (by simp [hnone, hbefore, hafter])

/-- A body on single lines is found again between the markers of the new text. -/
lemma texts_rewrite {head tail : List Line} {body : List String}
    (hfresh : r.freshLines s lines = head ++ markedBlock body ++ tail)
    (hbody : ∀ t ∈ body, SingleLine t) :
    ∃ before after, (splitLines (r.rewrite s lines)).map Line.text =
      before ++ startMarker :: (body ++ endMarker :: after) := by
  have heol : s.eol.ending ≠ .none := by cases s.eol <;> decide
  unfold rewrite
  rw [hfresh]
  exact texts_markedBlock heol _ head tail hbody

end SourceReading

/-! ## The second run -/

/-- Regenerating a text, from which `r` is read, gives the text `out`; none of the lines of the code
has a line break in it. -/
structure Rewrites (s : Settings) (text : String) (r : SourceReading) (out : String) : Prop where
  reading : SourceReading.ofLines s ((splitLines text).map Line.text) = .ok (some r)
  rewritten : regenerate s text = .ok (.rewritten out)
  singleLines : ∀ line ∈ r.body s, SingleLine line

/-- A text is read as declaring a bean with the same code as `r`, with all names in scope. -/
def ReadAlike (s : Settings) (r : SourceReading) (out : String) : Prop :=
  ∃ again, SourceReading.ofLines s ((splitLines out).map Line.text) = .ok (some again) ∧
    again.generated.code = r.generated.code ∧ again.missing = []

section

variable {s : Settings} {text out : String} {r : SourceReading}

/-- What becomes of a text with a bean. -/
lemma regenerate_of_ofLines
    (h : SourceReading.ofLines s ((splitLines text).map Line.text) = .ok (some r)) :
    regenerate s text = .ok (
      if r.isCurrent s ((splitLines text).map Line.text) then .upToDate
      else if !r.importFits s (splitLines text) then .stopped
      else if r.rewrite s (splitLines text) = text then .upToDate
      else .rewritten (r.rewrite s (splitLines text))) := by
  unfold regenerate
  simp only [h]
  split
  · rfl
  split
  · rfl
  · rfl

/-- What a text with a bean becomes if it is rewritten. -/
lemma eq_rewrite_of_rewritten
    (h : SourceReading.ofLines s ((splitLines text).map Line.text) = .ok (some r))
    (hrun : regenerate s text = .ok (.rewritten out)) : out = r.rewrite s (splitLines text) := by
  rw [regenerate_of_ofLines h] at hrun
  split at hrun
  · cases hrun
  split at hrun
  · cases hrun
  split at hrun
  · cases hrun
  · cases hrun
    rfl

lemma Rewrites.out_eq (h : Rewrites s text r out) : out = r.rewrite s (splitLines text) :=
  eq_rewrite_of_rewritten h.reading h.rewritten

/-- The region of a text whose markers are known, and its body. -/
lemma SourceReading.region_eq {body before after : List String}
    (h : SourceReading.ofLines s ((splitLines out).map Line.text) = .ok (some r))
    (htexts : (splitLines out).map Line.text =
      before ++ startMarker :: (body ++ endMarker :: after)) :
    r.region = some ⟨before.length, before.length + 1 + body.length⟩ ∧
      r.isCurrent s ((splitLines out).map Line.text) =
        (r.missing.isEmpty && sameBody body (r.body s)) := by
  obtain ⟨-, -, hfind, -⟩ := SourceReading.of_ofLines h
  rw [htexts] at hfind ⊢
  have hregion := Region.find_eq_of_markers trim_startMarker trim_endMarker hfind
  refine ⟨hregion, ?_⟩
  rw [SourceReading.isCurrent, hregion, Option.any_some, Region.body_between]

/-- A text that is read alike is up to date if its import is outside of the code. -/
lemma upToDate_of_importOutside (h : Rewrites s text r out) (hread : ReadAlike s r out)
    (houtside : r.ImportOutside s (splitLines text)) : regenerate s out = .ok .upToDate := by
  obtain ⟨again, hagain, hcode, hmissing⟩ := hread
  obtain ⟨head, body, tail, hfresh, hbody, -⟩ := r.freshLines_eq s (splitLines text)
  obtain rfl := hbody houtside
  obtain ⟨before, after, htexts⟩ := r.texts_rewrite s _ hfresh h.singleLines
  rw [← h.out_eq] at htexts
  have hsame : again.body s = r.body s := by rw [SourceReading.body, hcode, SourceReading.body]
  have hcurrent := (SourceReading.region_eq hagain htexts).2
  rw [hmissing, hsame, sameBody_self, List.isEmpty_nil, Bool.and_self] at hcurrent
  rw [regenerate_of_ofLines hagain, if_pos hcurrent]

/-- If the import got into the code then the text is changed again.

**Proof sketch.** The body between the markers has one more significant line than the code, so it is
not up to date. What is written for it has the code between the markers, and as the markers of a
text are found in one place only, the texts differ. -/
lemma importOutside_of_upToDate (h : Rewrites s text r out) (hread : ReadAlike s r out)
    (hagain : regenerate s out = .ok .upToDate) : r.ImportOutside s (splitLines text) := by
  obtain ⟨again, hreading, hcode, hmissing⟩ := hread
  have hsame : again.body s = r.body s := by rw [SourceReading.body, hcode, SourceReading.body]
  by_contra hwithin
  obtain ⟨head, body, tail, hfresh, -, hbody⟩ := r.freshLines_eq s (splitLines text)
  obtain ⟨first, gap, last, hcut, hgap, rfl⟩ := hbody hwithin
  have hsingle : ∀ t ∈ first ++ importLine r.missing :: (gap ++ last), SingleLine t := by
    have hold := h.singleLines
    rw [hcut, List.forall_mem_append] at hold
    rw [List.forall_mem_append, List.forall_mem_cons, List.forall_mem_append]
    refine ⟨hold.1, singleLine_importLine (SourceReading.singleLine_missing h.reading), ?_, hold.2⟩
    intro t ht
    rw [List.mem_singleton.mp (hgap ht)]
    simp [SingleLine]
  -- What is found between the markers is not the code.
  obtain ⟨before, after, htexts⟩ := r.texts_rewrite s _ hfresh hsingle
  rw [← h.out_eq] at htexts
  obtain ⟨hregion, hcurrent⟩ := SourceReading.region_eq hreading htexts
  rw [hsame, hcut, sameBody_insert (trim_importLine_ne _), Bool.and_false] at hcurrent
  have hfits : again.importFits s (splitLines out) = true := by
    simp [SourceReading.importFits, hmissing]
  -- So the text is written anew, and the code is found in what is written.
  obtain ⟨head', body', tail', hfresh', hbody', -⟩ := again.freshLines_eq s (splitLines out)
  obtain rfl := hbody' (.inl hmissing)
  obtain ⟨before', after', htexts'⟩ :=
    again.texts_rewrite s _ hfresh' (hsame ▸ h.singleLines)
  rw [regenerate_of_ofLines hreading, hcurrent, hfits] at hagain
  have hstays : again.rewrite s (splitLines out) = out := by
    by_contra hne
    simp [hne] at hagain
  rw [hstays] at htexts'
  have hregion' := (SourceReading.region_eq hreading htexts').1
  rw [hregion, hsame, hcut] at hregion'
  simp only [Option.some.injEq, Region.mk.injEq, List.length_append, List.length_cons] at hregion'
  omega

end

end Beans
