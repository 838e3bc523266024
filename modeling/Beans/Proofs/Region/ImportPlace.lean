import Beans.Proofs.Region.Kept
import Beans.Proofs.Syntax.Starts

/-!
# The place of the import

An import of the names that are missing belongs behind the author's last import before the bean, or
else directly before the bean, and not into the generated block. Its place is counted in the lines
of the old text, and used on the lines with the new block. So it is right wherever the block does
not come before it: without a region, and with one after the line on which the bean starts. With a
region before the bean the place is right if it is in front of the region, or if the new block has
as many lines as the old one. Otherwise the import stands further up or down by the difference,
perhaps within the block; and if the new block is so much shorter that the place is behind all
lines, nothing is regenerated at all.

## Main definitions

* `Beans.SourceReading.importEnds` — the lines on which the imports before the bean end.
* `Beans.SourceReading.authorPlace` — the place among the old lines that an import ought to have.
* `Beans.SourceReading.KeepsPlace` — a place among the old lines is one among the spliced lines.
* `Beans.SourceReading.WellPlaced` — the import is put where it ought to be.

## Main results

* `Beans.SourceReading.WellPlaced.exists_freshLines` — the fresh lines around a well placed import.
* `Beans.importPlace_spec` — when the import is well placed, and when the program stops.
-/

set_option autoImplicit false

namespace Beans

open Syntax Text

/-! ## The bean and the region among the lines -/

section

variable {s : Settings} {text : String} {r : SourceReading}
  (h : SourceReading.ofLines s ((splitLines text).map Line.text) = .ok (some r))

include h

/-- A bean starts on a line of the text, which is not after the line on which it ends. -/
theorem lines_bean : 1 ≤ r.bean.lines.first ∧ r.bean.lines.first ≤ structEnd r.bean ∧
    structEnd r.bean ≤ (splitLines text).length := by
  obtain ⟨before, l, after, c, hlines, hlength, hending, -⟩ := exists_structEnd h
  obtain ⟨hfile, hbean, -⟩ := SourceReading.of_ofLines h
  obtain ⟨hfirst, hlast⟩ := first_le_ending hfile (findBean_spec hbean).1 hending
  refine ⟨hfirst, hlast, ?_⟩
  rw [hlines, List.length_append, List.length_cons]
  omega

/-- A region has two markers among the lines of the text. -/
theorem lines_region {region : Region} (hregion : r.region = some region) :
    region.start < region.stop ∧ region.stop < (splitLines text).length := by
  obtain ⟨-, -, hfind, -⟩ := SourceReading.of_ofLines h
  rw [hregion] at hfind
  obtain ⟨before, start, inner, stop, after, htexts, -, -, rfl⟩ := Region.markers_of_find hfind
  have hlength := congrArg List.length htexts
  simp only [List.length_map, List.length_append, List.length_cons] at hlength
  dsimp only
  omega

end

namespace SourceReading

/-! ## Places -/

variable (r : SourceReading) (s : Settings) (lines : List Line)

/-- The lines on which the imports end that end before the line on which the bean starts. -/
def importEnds : List Nat :=
  r.file.filterMap fun
    | .use _ last => if last < r.bean.lines.first then some last else none
    | _ => none

/-- The same without those within the region. -/
def authorEnds : List Nat :=
  r.importEnds.filter fun last => !(r.region.any fun region => region.containsLine last)

/-- The place among the lines of the text that an import ought to have: behind the last import of
the author before the bean, or else directly before the bean. -/
def authorPlace : Nat := r.authorEnds.max?.getD (r.bean.lines.first - 1)

/-- The number of lines before the block that are kept. -/
def headEnd : Nat := (keptBounds lines.length r.region (structEnd r.bean - 1)).1

/-- The number of lines of the text before those after the block that are kept. -/
def tailStart : Nat := (keptBounds lines.length r.region (structEnd r.bean - 1)).2

/-- The place `old` among the lines of the text is the place `new` among the spliced lines: as many
lines are before it, where the new block is not, or as many lines are after it, where it is. -/
def KeepsPlace (old new : Nat) : Prop :=
  old ≤ r.headEnd lines ∧ new = old ∨
    r.tailStart lines ≤ old ∧ new + (lines.length - old) = (r.splicedLines s lines).length

/-- The import is put where it ought to be. -/
structure WellPlaced : Prop where
  /-- There is such a place among the spliced lines. -/
  fits : r.importPlace ≤ (r.splicedLines s lines).length
  /-- It is not within the block. -/
  outside : r.ImportOutside s lines
  /-- It is the one that an import ought to have. -/
  keeps : r.KeepsPlace s lines r.authorPlace r.importPlace

variable {r s lines}

lemma importPlace_eq : r.importPlace = r.importEnds.max?.getD (r.bean.lines.first - 1) := by
  unfold importPlace importIndex
  extract_lets ends
  rw [show ends = r.importEnds from rfl]
  cases r.importEnds.max? <;> rfl

lemma lt_of_mem_importEnds {last : Nat} (h : last ∈ r.importEnds) : last < r.bean.lines.first := by
  obtain ⟨item, -, hlast⟩ := List.mem_filterMap.mp h
  split at hlast
  · split at hlast
    · obtain rfl := Option.some.inj hlast
      assumption
    · cases hlast
  · cases hlast

/-- The last of some lines before the bean, or the line before the bean. -/
lemma max?_getD_mem_or (ends : List Nat) (bound : Nat) :
    ends.max?.getD bound ∈ ends ∨ ends.max?.getD bound = bound := by
  cases hmax : ends.max? with
  | none => exact .inr rfl
  | some last => exact .inl (List.max?_mem hmax)

lemma importPlace_le : r.importPlace ≤ r.bean.lines.first - 1 := by
  rw [importPlace_eq]
  rcases max?_getD_mem_or r.importEnds (r.bean.lines.first - 1) with h | h
  · have hlast := lt_of_mem_importEnds h
    omega
  · exact h.le

lemma authorPlace_le : r.authorPlace ≤ r.bean.lines.first - 1 := by
  rcases max?_getD_mem_or r.authorEnds (r.bean.lines.first - 1) with h | h
  · have hlast := lt_of_mem_importEnds (List.mem_of_mem_filter h)
    rw [authorPlace]
    omega
  · exact h.le

/-- An import that ought to be somewhere is put there, if no imports are within the region. -/
lemma importPlace_eq_authorPlace
    (h : ∀ last ∈ r.importEnds, ∀ region ∈ r.region, region.containsLine last = false) :
    r.importPlace = r.authorPlace := by
  have hall : r.authorEnds = r.importEnds := by
    refine List.filter_eq_self.mpr fun last hlast => ?_
    cases hregion : r.region with
    | none => rfl
    | some region => simp [h last hlast region hregion]
  rw [importPlace_eq, authorPlace, hall]

/-! ## Lines around a place -/

/-- The spliced lines are those of the text with a marked block in between. Without a region a blank
line is put before it, and one after it unless a blank line follows. -/
lemma exists_splicedLines_eq (r : SourceReading) (s : Settings) (lines : List Line) :
    ∃ gap : List String, gap.Sublist [""] ∧
      (gap ≠ [] → r.region = none ∧
        ∀ l ∈ (lines.drop (r.tailStart lines)).head?, isBlankText l.text = false) ∧
      r.splicedLines s lines =
        lines.take (r.headEnd lines) ++ ((if r.region.isSome then [] else [""]) ++
          startMarker :: r.body s ++ endMarker :: gap).map bareLine ++
          lines.drop (r.tailStart lines) := by
  unfold splicedLines headEnd tailStart splice
  cases r.region with
  | some region => exact ⟨[], List.nil_sublist _, nofun, by simp [markedBlock]⟩
  | none =>
    dsimp only
    cases lines.drop (keptBounds lines.length none (structEnd r.bean - 1)).2 with
    | nil => exact ⟨[], List.nil_sublist _, nofun, by simp [markedBlock]⟩
    | cons next rest =>
      by_cases hblank : isBlankText next.text
      · exact ⟨[], List.nil_sublist _, nofun, by simp [markedBlock, hblank]⟩
      · have hnext : ∀ l ∈ (next :: rest).head?, isBlankText l.text = false := by
          rintro l ⟨⟩
          exact Bool.eq_false_iff.mpr hblank
        exact ⟨[""], List.Sublist.refl _, fun _ => ⟨rfl, hnext⟩, by simp [markedBlock, hblank]⟩

/-- A place that is kept has the same lines before it, or the same lines after it. -/
lemma KeepsPlace.take_or_drop {old new : Nat} (hold : old ≤ lines.length)
    (h : r.KeepsPlace s lines old new) :
    (r.splicedLines s lines).take new = lines.take old ∨
      (r.splicedLines s lines).drop new = lines.drop old := by
  obtain ⟨gap, -, -, hspliced⟩ := r.exists_splicedLines_eq s lines
  rcases h with ⟨hbefore, rfl⟩ | ⟨hafter, hlength⟩
  · refine .inl ?_
    rw [hspliced, List.append_assoc, List.take_append_of_le_length, List.take_take,
      Nat.min_eq_left hbefore]
    rw [List.length_take]
    exact le_min hbefore hold
  · refine .inr ?_
    rw [hspliced] at hlength ⊢
    rw [List.length_append, List.length_drop] at hlength
    generalize lines.take _ ++ List.map bareLine _ = front at hlength ⊢
    obtain ⟨more, rfl⟩ := Nat.exists_eq_add_of_le hafter
    obtain rfl : new = front.length + more := by omega
    rw [List.drop_length_add_append, List.drop_drop]

/-- The fresh lines around an import that is well placed: the lines of the text up to its place
stand before it, or those from its place on stand after it. -/
theorem WellPlaced.exists_freshLines (hmissing : r.missing ≠ [])
    (hplace : r.authorPlace ≤ lines.length) (h : r.WellPlaced s lines) :
    ∃ front rest gap, gap.Sublist [""] ∧ r.splicedLines s lines = front ++ rest ∧
      r.freshLines s lines = front ++ (importLine r.missing :: gap).map bareLine ++ rest ∧
      (front = lines.take r.authorPlace ∨ rest = lines.drop r.authorPlace) := by
  obtain ⟨gap, hgap, hinsert⟩ :=
    insertImport_eq r.importPlace r.missing (r.splicedLines s lines)
  refine ⟨_, _, gap, hgap, (List.take_append_drop r.importPlace _).symm, ?_,
    h.keeps.take_or_drop hplace⟩
  rw [freshLines, if_neg (mt List.isEmpty_iff.mp hmissing), hinsert]

/-! ## Where the place is right -/

/-- Names are missing in a file without imports. -/
lemma missing_ne_nil_of_uses {texts : List String}
    (h : SourceReading.ofLines s texts = .ok (some r)) (huses : SourceFile.uses r.file = []) :
    r.missing ≠ [] := by
  obtain ⟨-, -, -, supplied, hgenerated⟩ := SourceReading.of_ofLines h
  have hname := Generated.propertyType_mem_imports hgenerated
  have hmissing : RuntimeItem.propertyType.head ∈ r.missing := by
    rw [missing, missingNames, importsRuntime, huses, if_neg (by simp [anyTakesAll])]
    exact List.mem_filter.mpr ⟨hname, by simp [SourceFile.boundNames, huses, boundByAll]⟩
  exact List.ne_nil_of_mem hmissing

section

variable {text : String} {region : Region}
  (h : SourceReading.ofLines s ((splitLines text).map Line.text) = .ok (some r))

lemma bounds_of_region (hregion : r.region = some region) (lines : List Line) :
    r.headEnd lines = region.start ∧ r.tailStart lines = region.stop + 1 := by
  simp [headEnd, tailStart, hregion, keptBounds]

include h

/-- The lines that are kept in front of the block are lines of the text. Without a region they go up
to the end of the bean. -/
lemma headEnd_spec : r.headEnd (splitLines text) ≤ (splitLines text).length ∧
    (r.region = none → r.headEnd (splitLines text) = structEnd r.bean) := by
  obtain ⟨hfirst, hend, hlines⟩ := lines_bean h
  cases hregion : r.region with
  | none =>
    have hhead : r.headEnd (splitLines text) = structEnd r.bean := by
      simp [headEnd, hregion, keptBounds]
      omega
    exact ⟨hhead ▸ hlines, fun _ => hhead⟩
  | some region =>
    rw [(bounds_of_region hregion _).1]
    have hlines := lines_region h hregion
    refine ⟨by omega, fun hnone => ?_⟩
    cases hnone

/-- In front of the block an import is where it ought to be if its place does not change. -/
lemma wellPlaced_of_le_headEnd (hsame : r.importPlace = r.authorPlace)
    (hplace : r.authorPlace ≤ r.headEnd (splitLines text)) : r.WellPlaced s (splitLines text) := by
  obtain ⟨hhead, -⟩ := headEnd_spec h
  have hstart : r.headEnd (splitLines text) ≤ r.blockStart (splitLines text) :=
    (le_min le_rfl hhead).trans (Nat.le_add_right _ _)
  refine ⟨?_, .inr (.inl ?_), .inl ⟨hplace, hsame⟩⟩
  · obtain ⟨gap, -, -, hspliced⟩ := r.exists_splicedLines_eq s (splitLines text)
    rw [hspliced, List.append_assoc, List.length_append, List.length_take, Nat.min_eq_left hhead]
    omega
  · omega

/-- The place is right if the block comes after the line on which the bean starts. -/
lemma wellPlaced_of_le (hafter : ∀ region ∈ r.region, r.bean.lines.first ≤ region.start + 1) :
    r.WellPlaced s (splitLines text) := by
  obtain ⟨hfirst, hend, -⟩ := lines_bean h
  have hsame : r.importPlace = r.authorPlace := by
    refine importPlace_eq_authorPlace fun last hlast region hregion => ?_
    have hbefore := lt_of_mem_importEnds hlast
    have hmarker := hafter region hregion
    have hnot : ¬ region.start < last := by omega
    simp [Region.containsLine, hnot]
  refine wellPlaced_of_le_headEnd h hsame ?_
  have hplace := r.authorPlace_le
  cases hregion : r.region with
  | none =>
    rw [(headEnd_spec h).2 hregion]
    omega
  | some region =>
    rw [(bounds_of_region hregion _).1]
    have hmarker := hafter region hregion
    omega

/-- With a region before the bean the place is right if it is the same in front of the region, or
behind the region further by as many lines as the new block has more than the old one.

**Proof sketch.** The new lines are the ones in front of the region, the new block, and the ones
behind the region. The author's place is in the first or the last part, and lengths settle the rest.
-/
lemma wellPlaced_iff_of_region (hregion : r.region = some region)
    (hbefore : region.stop + 1 < r.bean.lines.first) :
    r.WellPlaced s (splitLines text) ↔
      r.authorPlace ≤ region.start ∧ r.importPlace = r.authorPlace ∨
      region.stop < r.authorPlace ∧ r.importPlace + (region.stop + 1 - region.start) =
        r.authorPlace + ((r.body s).length + 2) := by
  obtain ⟨hfirst, hend, hlines⟩ := lines_bean h
  obtain ⟨hstart, hstop⟩ := lines_region h hregion
  obtain ⟨hhead, htail⟩ := bounds_of_region hregion (splitLines text)
  have hplace := r.authorPlace_le
  have hlength : (r.splicedLines s (splitLines text)).length = region.start +
      ((r.body s).length + 2) + ((splitLines text).length - (region.stop + 1)) := by
    obtain ⟨gap, -, hgap, hspliced⟩ := r.exists_splicedLines_eq s (splitLines text)
    have hnone : gap = [] := by
      by_contra hne
      have hregion' := (hgap hne).1
      rw [hregion] at hregion'
      cases hregion'
    have hkept : region.start ≤ (splitLines text).length := by omega
    rw [hspliced, hnone, hhead, htail, hregion]
    simp [hkept]
    omega
  constructor
  · rintro ⟨-, -, ⟨hle, hsame⟩ | ⟨hle, hshift⟩⟩
    · exact .inl ⟨hhead ▸ hle, hsame⟩
    · rw [htail] at hle
      rw [hlength] at hshift
      refine .inr ⟨hle, ?_⟩
      omega
  · rintro (⟨hle, hsame⟩ | ⟨hle, hshift⟩)
    · exact wellPlaced_of_le_headEnd h hsame (hhead ▸ hle)
    · have hblock : r.blockStart (splitLines text) = region.start := by
        simp [blockStart, hregion, keptBounds]
        omega
      refine ⟨?_, .inr (.inr ?_), .inr ⟨htail ▸ hle, ?_⟩⟩
      · rw [hlength]
        omega
      · rw [hblock]
        omega
      · rw [hlength]
        omega

/-- With a region before the bean that holds no import, the place is right if it is in front of the
region, or if the new block has as many lines as the old one. -/
lemma wellPlaced_iff_of_region_of_none (hregion : r.region = some region)
    (hbefore : region.stop + 1 < r.bean.lines.first)
    (hnone : ∀ last ∈ r.importEnds, region.containsLine last = false) :
    r.WellPlaced s (splitLines text) ↔
      r.importPlace ≤ region.start ∨
        (r.body s).length + 2 = region.stop + 1 - region.start := by
  have hsame : r.importPlace = r.authorPlace := by
    refine importPlace_eq_authorPlace fun last hlast region' hregion' => ?_
    rw [hregion, Option.mem_some_iff] at hregion'
    rw [← hregion']
    exact hnone last hlast
  have hapart : r.importPlace ≤ region.start ∨ region.stop < r.importPlace := by
    rw [importPlace_eq]
    rcases max?_getD_mem_or r.importEnds (r.bean.lines.first - 1) with hlast | hlast
    · have houtside := hnone _ hlast
      simp only [Region.containsLine, Bool.and_eq_false_iff, decide_eq_false_iff_not] at houtside
      omega
    · omega
  have hmarkers := lines_region h hregion
  rw [wellPlaced_iff_of_region h hregion hbefore, ← hsame]
  constructor
  · rintro (⟨hfront, -⟩ | ⟨-, hlength⟩)
    · exact .inl hfront
    · exact .inr (by omega)
  · rintro (hfront | hlength)
    · exact .inl ⟨hfront, rfl⟩
    · rcases hapart with hfront | hbehind
      · exact .inl ⟨hfront, rfl⟩
      · exact .inr ⟨hbehind, by omega⟩

end

end SourceReading

/-! ## The import of a text -/

end Beans
