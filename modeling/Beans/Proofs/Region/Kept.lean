import Beans.Proofs.Region.StructEnd
import Beans.Proofs.Text.Woven

/-!
# What regenerating keeps

Regenerating a text leaves what its author wrote as it is. The lines of the old block are taken out,
from the start marker to the end marker, and the new block takes their place; without an old block
it is put in after the line on which the bean ends. A line that imports names can be put in. All
other lines stay as they are and in their order, with the terminators that they have. A last line
that has none and is not the last any more gets one, and the text ends with a terminator if it did
before.

## Main definitions

* `Beans.Patch` — what is taken out of the lines of a text and what is put in.
* `Beans.Patch.Regenerates` — a patch puts in the code that is read from a text.

## Main results

* `Beans.regenerate_keeps_author` — a regenerated text is the old one with a patch.
-/

set_option autoImplicit false

namespace Beans

open Syntax Text

/-! ## Patches -/

/-- What is taken out of a text and what is put in. -/
structure Patch where
  /-- The lines before the block. -/
  before : List Line
  /-- The lines that are taken out. -/
  old : List Line
  /-- The lines after the block. -/
  after : List Line
  /-- The lines that are put in between. -/
  block : List String
  /-- The lines that are put in at some place for an import. -/
  imports : List String
  /-- The number of lines before those of the import. -/
  place : Nat

namespace Patch

/-- The lines of the new text. -/
def strands (p : Patch) : List Strand :=
  let lines := p.before.map .author ++ p.block.map .added ++ p.after.map .author
  lines.take p.place ++ p.imports.map .added ++ lines.drop p.place

/-- The lines from a start marker to an end marker make place for a block with some code. -/
def Replaces (p : Patch) (body : List String) : Prop :=
  ∃ start inner stop, p.old = start :: (inner ++ [stop]) ∧
    trim start.text = startMarker ∧ trim stop.text = endMarker ∧
    p.block = startMarker :: body ++ [endMarker]

/-- A text without markers gets a block with some code after the line on which its bean ends, with a
blank line before it and at most one after it. -/
structure Inserts (p : Patch) (bean : Declaration) (body : List String) : Prop where
  old_eq : p.old = []
  unmarked : ∀ l ∈ p.before ++ p.after, trim l.text ≠ startMarker ∧ trim l.text ≠ endMarker
  follows : ∃ earlier l c, p.before = earlier ++ [l] ∧ bean.ending? = some (c, p.before.length) ∧
    c ∈ l.text.toList
  block_eq : ∃ gap, gap.Sublist [""] ∧ p.block = "" :: startMarker :: body ++ endMarker :: gap

/-- A patch of a text puts in the code that is read from it. If names are missing then an import of
them is put in, with at most one blank line after it. -/
structure Regenerates (p : Patch) (s : Settings) (text : String) (r : SourceReading) : Prop where
  lines_eq : splitLines text = p.before ++ p.old ++ p.after
  block : p.Replaces (r.body s) ∨ p.Inserts r.bean (r.body s)
  imports : r.missing = [] ∧ p.imports = [] ∨
    r.missing ≠ [] ∧ ∃ gap, gap.Sublist [""] ∧ p.imports = importLine r.missing :: gap

/-- What stays of the old text, in its order. -/
lemma author_strands (p : Patch) : p.strands.filterMap Strand.author? = p.before ++ p.after := by
  have hauthor (lines : List Line) :
      (lines.map Strand.author).filterMap Strand.author? = lines := by
    simp [List.filterMap_map, Function.comp_def, Strand.author?]
  have hadded (texts : List String) :
      (texts.map Strand.added).filterMap Strand.author? = [] := by
    simp [List.filterMap_map, Function.comp_def, Strand.author?]
  unfold strands
  extract_lets lines
  rw [List.filterMap_append, List.filterMap_append, hadded, List.append_nil,
    ← List.filterMap_append, List.take_append_drop]
  simp only [lines, List.filterMap_append, hauthor, hadded, List.append_nil]

lemma map_line_strands (p : Patch) : p.strands.map Strand.line =
    (p.before ++ p.block.map bareLine ++ p.after).take p.place ++ p.imports.map bareLine ++
      (p.before ++ p.block.map bareLine ++ p.after).drop p.place := by
  have hlines : (p.before.map Strand.author ++ p.block.map Strand.added ++
      p.after.map Strand.author).map Strand.line = p.before ++ p.block.map bareLine ++ p.after := by
    simp [Function.comp_def, Strand.line, bareLine]
  have himports : (p.imports.map Strand.added).map Strand.line = p.imports.map bareLine := by
    simp [Function.comp_def, Strand.line, bareLine]
  rw [strands, List.map_append, List.map_append, List.map_take, List.map_drop, hlines, himports]

end Patch

/-! ## Patches of a text -/

section

variable {s : Settings} {text : String} {r : SourceReading}

/-- The fresh lines of a text with a region: the region makes place for a block. -/
lemma exists_replaces {region : Region} (body : List String) (anchor : Nat)
    (hfind : Region.find ((splitLines text).map Line.text) = .ok (some region)) :
    ∃ p : Patch, splitLines text = p.before ++ p.old ++ p.after ∧ p.Replaces body ∧
      splice (splitLines text) (some region) anchor body =
        p.before ++ p.block.map bareLine ++ p.after := by
  obtain ⟨_, _, _, _, _, htexts, hstart, hstop, rfl⟩ := Region.markers_of_find hfind
  -- The lines are cut where their texts are.
  obtain ⟨before, marked, hlines, rfl, hmarked⟩ := List.map_eq_append_iff.mp htexts
  obtain ⟨start, rest, rfl, rfl, hrest⟩ := List.map_eq_cons_iff.mp hmarked
  obtain ⟨inner, stopped, rfl, rfl, hstopped⟩ := List.map_eq_append_iff.mp hrest
  obtain ⟨stop, after, rfl, rfl, rfl⟩ := List.map_eq_cons_iff.mp hstopped
  have hcut : splitLines text = before ++ (start :: (inner ++ [stop])) ++ after := by simp [hlines]
  refine ⟨⟨before, start :: (inner ++ [stop]), after, startMarker :: body ++ [endMarker], [], 0⟩,
    hcut, ⟨start, inner, stop, rfl, hstart, hstop, rfl⟩, ?_⟩
  have hdrop : (before ++ (start :: (inner ++ [stop]))).length =
      before.length + 1 + inner.length + 1 := by
    simp
    omega
  simp only [splice, keptBounds, List.length_map]
  rw [hcut, ← hdrop, List.drop_left' rfl, List.append_assoc before, List.take_left' rfl]
  rfl

/-- Without a region the new block follows the lines up to the anchor, with a blank line before it
and at most one after it. -/
lemma splice_none {head : List Line} {anchor : Nat} (h : anchor + 1 = head.length)
    (tail : List Line) (body : List String) :
    ∃ gap, gap.Sublist [""] ∧ splice (head ++ tail) none anchor body =
      head ++ ("" :: startMarker :: body ++ endMarker :: gap).map bareLine ++ tail := by
  have hbounds : min (anchor + 1) (head ++ tail).length = head.length := by
    rw [List.length_append]
    omega
  simp only [splice, keptBounds, hbounds, List.drop_left, List.take_left]
  cases tail with
  | nil => exact ⟨[], by simp, by simp [markedBlock]⟩
  | cons next rest =>
    by_cases hblank : isBlankText next.text
    · exact ⟨[], by simp, by simp [markedBlock, hblank]⟩
    · exact ⟨[""], by simp, by simp [markedBlock, hblank]⟩

/-- The fresh lines of a text without a region: after the line on which the bean ends stands a new
block. -/
lemma exists_inserts (body : List String)
    (h : SourceReading.ofLines s ((splitLines text).map Line.text) = .ok (some r))
    (hfind : Region.find ((splitLines text).map Line.text) = .ok none) :
    ∃ p : Patch, splitLines text = p.before ++ p.old ++ p.after ∧ p.Inserts r.bean body ∧
      splice (splitLines text) none (structEnd r.bean - 1) body =
        p.before ++ p.block.map bareLine ++ p.after := by
  obtain ⟨before, l, after, c, hlines, hlength, hending, hmem⟩ := exists_structEnd h
  have hcut : splitLines text = (before ++ [l]) ++ after := by simp [hlines]
  have hstruct : structEnd r.bean = (before ++ [l]).length := by simp [← hlength]
  have hunmarked := Region.unmarked_of_find hfind
  rw [List.forall_mem_map, hcut] at hunmarked
  have hanchor : structEnd r.bean - 1 + 1 = (before ++ [l]).length := by
    rw [List.length_append, List.length_singleton]
    omega
  obtain ⟨gap, hgap, hsplice⟩ := splice_none hanchor after body
  have hfollows : ∃ earlier m d, before ++ [l] = earlier ++ [m] ∧
      r.bean.ending? = some (d, (before ++ [l]).length) ∧ d ∈ m.text.toList :=
    ⟨before, l, c, rfl, hstruct ▸ hending, hmem⟩
  exact ⟨⟨before ++ [l], [], after, "" :: startMarker :: body ++ endMarker :: gap, [], 0⟩,
    by simp [hlines], ⟨rfl, hunmarked, hfollows, gap, hgap, rfl⟩, hcut ▸ hsplice⟩

/-- The fresh lines of a text are those of a patch of it.

**Proof sketch.** The block takes the place of the region, or is put in if there is none. After that
an import may be put in. Each of the two makes a patch of the text. -/
lemma exists_regenerates
    (h : SourceReading.ofLines s ((splitLines text).map Line.text) = .ok (some r)) :
    ∃ p : Patch, p.Regenerates s text r ∧
      p.strands.map Strand.line = r.freshLines s (splitLines text) := by
  obtain ⟨-, -, hfind, -⟩ := SourceReading.of_ofLines h
  obtain ⟨p, hlines, hblock, hsplice⟩ : ∃ p : Patch,
      splitLines text = p.before ++ p.old ++ p.after ∧
      (p.Replaces (r.body s) ∨ p.Inserts r.bean (r.body s)) ∧
      r.splicedLines s (splitLines text) = p.before ++ p.block.map bareLine ++ p.after := by
    unfold SourceReading.splicedLines
    cases hregion : r.region with
    | some region =>
      rw [hregion] at hfind
      obtain ⟨p, hlines, hblock, hsplice⟩ := exists_replaces (r.body s) (structEnd r.bean - 1) hfind
      exact ⟨p, hlines, .inl hblock, hsplice⟩
    | none =>
      rw [hregion] at hfind
      obtain ⟨p, hlines, hblock, hsplice⟩ := exists_inserts (r.body s) h hfind
      exact ⟨p, hlines, .inr hblock, hsplice⟩
  have hkept {imports : List String} {place : Nat} :
      ({ p with imports, place } : Patch).Replaces (r.body s) ∨
        ({ p with imports, place } : Patch).Inserts r.bean (r.body s) :=
    hblock.imp id fun h => ⟨h.old_eq, h.unmarked, h.follows, h.block_eq⟩
  unfold SourceReading.freshLines
  by_cases hmissing : r.missing = []
  · rw [if_pos (List.isEmpty_iff.mpr hmissing)]
    refine ⟨{ p with imports := [], place := 0 }, ⟨hlines, hkept, .inl ⟨hmissing, rfl⟩⟩, ?_⟩
    rw [hsplice, Patch.map_line_strands]
    simp
  · rw [if_neg (mt List.isEmpty_iff.mp hmissing)]
    obtain ⟨gap, hgap, hinsert⟩ :=
      insertImport_eq r.importPlace r.missing (r.splicedLines s (splitLines text))
    refine ⟨{ p with imports := importLine r.missing :: gap, place := r.importPlace },
      ⟨hlines, hkept, .inr ⟨hmissing, gap, hgap, rfl⟩⟩, ?_⟩
    rw [hinsert, hsplice, Patch.map_line_strands]

/-! ## The end of the text -/

lemma closes_append {lines xs ls after : List Line} (hlines : lines = xs ++ after)
    (h : after = [] → Closes lines ls) : Closes lines (ls ++ after) := by
  obtain rfl | ⟨init, l, rfl⟩ := List.eq_nil_or_concat after
  · rw [List.append_nil]
    exact h rfl
  · refine .inl ⟨l, ?_, ?_⟩
    · rw [hlines, List.concat_eq_append, ← List.append_assoc, List.getLast?_concat]
    · rw [List.concat_eq_append, ← List.append_assoc, List.getLast?_concat]

lemma openEnded_endMarker : OpenEnded endMarker := ⟨by decide +kernel, by decide +kernel⟩

lemma openEnded_importLine (names : List String) : OpenEnded (importLine names) := by
  obtain ⟨before, hchars⟩ : ∃ before, (importLine names).toList = before ++ [';'] := by
    unfold importLine
    split
    · exact ⟨_, String.toList_append⟩
    · refine ⟨("use " ++ runtimeName ++ "::\x7b" ++ joinWith ", " names).toList ++ ['}'], ?_⟩
      rw [String.toList_append, List.append_assoc]
      rfl
  refine ⟨by simp [hchars], ?_⟩
  rw [endsLine, hchars, List.getLast?_concat]
  rfl

lemma closes_markedBlock (lines ls : List Line) (body : List String) :
    Closes lines (ls ++ markedBlock body) := by
  have hblock : markedBlock body = (startMarker :: body).map bareLine ++ [bareLine endMarker] := by
    simp [markedBlock]
  refine .inr ⟨endMarker, ?_, openEnded_endMarker⟩
  rw [hblock, ← List.append_assoc, List.getLast?_concat]
  rfl

/-- The new block does not change how the lines end. -/
lemma closes_splice (lines : List Line) (region : Option Region) (anchor : Nat)
    (body : List String) : Closes lines (splice lines region anchor body) := by
  have hcut := (List.take_append_drop (keptBounds lines.length region anchor).2 lines).symm
  cases region with
  | some region => exact closes_append hcut fun _ => closes_markedBlock _ _ _
  | none =>
    refine closes_append hcut fun htail => ?_
    simp only [htail, List.append_nil]
    rw [List.append_cons]
    exact closes_markedBlock _ _ _

/-- The import does not change how the lines end. -/
lemma closes_insertImport {lines ls : List Line} (h : Closes lines ls) (index : Nat)
    (names : List String) : Closes lines (insertImport index names ls) := by
  unfold insertImport
  cases hdrop : ls.drop index with
  | nil =>
    refine .inr ⟨importLine names, ?_, openEnded_importLine names⟩
    simp [bareLine]
  | cons next rest =>
    have hlast : ls.getLast? = (next :: rest).getLast? := by
      rw [← List.take_append_drop index ls, hdrop, List.getLast?_append_cons]
    unfold Closes at h ⊢
    rwa [List.getLast?_append_cons, ← hlast]

lemma SourceReading.closes_freshLines (r : SourceReading) (s : Settings) (lines : List Line) :
    Closes lines (r.freshLines s lines) := by
  unfold freshLines
  split
  · exact closes_splice _ _ _ _
  · exact closes_insertImport (closes_splice _ _ _ _) _ _

end

/-! ## Readings that can be evaluated -/

/-- The import makes the lines no fewer. -/
lemma SourceReading.length_splicedLines_le (r : SourceReading) (s : Settings) (lines : List Line) :
    (r.splicedLines s lines).length ≤ (r.freshLines s lines).length := by
  unfold freshLines
  split
  · exact le_rfl
  · obtain ⟨gap, -, hinsert⟩ := insertImport_eq r.importPlace r.missing (r.splicedLines s lines)
    have hcut := congrArg List.length (List.take_append_drop r.importPlace (r.splicedLines s lines))
    rw [List.length_append] at hcut
    rw [hinsert, List.length_append, List.length_append]
    omega

/-- A text without a region is rewritten, if the code for it has more lines than the text has
characters. -/
lemma regenerate_of_region_none {s : Settings} {text : String} {r : SourceReading}
    (hread : SourceReading.ofLines s ((splitLines text).map Line.text) = .ok (some r))
    (hregion : r.region = none) (hplace : r.importPlace = 0)
    (hlength : text.toList.length + 1 < (r.splicedLines s (splitLines text)).length) :
    regenerate s text = .ok (.rewritten (r.rewrite s (splitLines text))) := by
  have hstale : r.isCurrent s ((splitLines text).map Line.text) = false := by
    simp [SourceReading.isCurrent, hregion]
  have hfits : r.importFits s (splitLines text) = true := by
    simp [SourceReading.importFits, hplace]
  have hne : r.rewrite s (splitLines text) ≠ text := by
    intro heq
    have heol : s.eol.ending ≠ .none := by cases s.eol <;> decide
    have hlines := length_le_joinLines
      ((splitLines text).getLast?.any fun l => decide (l.ending ≠ .none)) heol
      (r.freshLines s (splitLines text))
    have hspliced := r.length_splicedLines_le s (splitLines text)
    have hchars := congrArg (fun t => t.toList.length) heq
    simp only [SourceReading.rewrite, String.toList_ofList] at hchars
    omega
  rw [regenerate_of_ofLines hread, hstale, hfits, if_neg Bool.false_ne_true, if_neg (by decide),
    if_neg hne]

/-- Whether something is found in a text that passes a check. -/
def foundWith (check : SourceReading → Bool) : Except SourceFault (Option SourceReading) → Bool
  | .ok (some r) => check r
  | .ok none | .error _ => false

lemma exists_of_foundWith {check : SourceReading → Bool}
    {found : Except SourceFault (Option SourceReading)} (h : foundWith check found = true) :
    ∃ r, found = .ok (some r) ∧ check r = true := by
  cases found with
  | error fault => cases h
  | ok found =>
    cases found with
    | none => cases h
    | some r => exact ⟨r, rfl, h⟩

/-! ## The new text -/

/-- What a text becomes, if there is a bean in it and a place for what is put in. -/
def Regenerated.text? (old : String) : Regenerated → Option String
  | .noBean | .stopped => none
  | .upToDate => some old
  | .rewritten new => some new

/-- A text is as it was, or it is rewritten. -/
lemma text?_of_regenerate {s : Settings} {text out : String} {result : Regenerated}
    (h : regenerate s text = .ok result) (hout : result.text? text = some out) :
    out = text ∨ ∃ r, SourceReading.ofLines s ((splitLines text).map Line.text) = .ok (some r) ∧
      out = r.rewrite s (splitLines text) := by
  cases hread : SourceReading.ofLines s ((splitLines text).map Line.text) with
  | error fault =>
    unfold regenerate at h
    dsimp only at h
    rw [hread] at h
    cases h
  | ok found =>
    cases found with
    | none =>
      unfold regenerate at h
      dsimp only at h
      rw [hread] at h
      cases h
      cases hout
    | some r =>
      rw [regenerate_of_ofLines hread] at h
      obtain rfl := Except.ok.inj h
      split at hout
      · exact .inl (Option.some.inj hout).symm
      split at hout
      · cases hout
      split at hout
      · exact .inl (Option.some.inj hout).symm
      · exact .inr ⟨r, rfl, (Option.some.inj hout).symm⟩

/-- What a text is like after it was regenerated: it is the old text, or the old text with a patch
that puts in the code for its bean. It ends with a terminator if and only if the old text does. -/
structure KeepsAuthor (s : Settings) (text out : String) : Prop where
  patched : out = text ∨ ∃ r p,
    SourceReading.ofLines s ((splitLines text).map Line.text) = .ok (some r) ∧
    Patch.Regenerates p s text r ∧
    out.toList = weave s.eol.ending (endsLine text.toList) p.strands ∧
    ((p.before ++ p.after).flatMap Line.chars).Sublist out.toList
  ends : endsLine out.toList = endsLine text.toList

/-- **Regenerating keeps the author's text.** Whatever the text and the settings are, the new text
is the old one but for the block, the import and the terminator of a line that is not the last any
more.

**Proof sketch.** The fresh lines are those of a patch, and their text is woven from what stays and
what is put in. What is last among them is the last line of the old text, or a marker or an import,
which end with no terminator of their own. -/
theorem regenerate_keeps_author (s : Settings) (text : String) {result : Regenerated} {out : String}
    (h : regenerate s text = .ok result) (hout : result.text? text = some out) :
    KeepsAuthor s text out := by
  have heol : s.eol.ending ≠ .none := by cases s.eol <;> decide
  rcases text?_of_regenerate h hout with rfl | ⟨r, hread, hrewrite⟩
  · exact ⟨.inl rfl, rfl⟩
  · obtain ⟨p, hp, hfresh⟩ := exists_regenerates hread
    have hjoined : out.toList = joinLines s.eol.ending (endsLine text.toList)
        (r.freshLines s (splitLines text)) := by
      rw [hrewrite, SourceReading.rewrite, String.toList_ofList, any_getLast?_splitLines]
    have hwoven : out.toList = weave s.eol.ending (endsLine text.toList) p.strands := by
      rw [hjoined, ← hfresh]
      refine joinLines_map_line fun hends l hl => ending_ne_none_of_endsLine ?_ hends
      have hauthor : l ∈ p.before ++ p.after := by
        rw [← p.author_strands]
        exact List.mem_filterMap.mpr ⟨.author l, hl, rfl⟩
      rw [hp.lines_eq]
      rcases List.mem_append.mp hauthor with hbefore | hafter
      · exact List.mem_append_left _ (List.mem_append_left _ hbefore)
      · exact List.mem_append_right _ hafter
    refine ⟨.inr ⟨r, p, hread, hp, hwoven, ?_⟩, ?_⟩
    · rw [hwoven, ← p.author_strands]
      exact authorText_sublist p.strands
    · rw [hjoined]
      exact endsLine_joinLines_of_closes heol (r.closes_freshLines s _)

/-- A text of two lines with different terminators is rewritten. -/
theorem regenerate_keeps_author_two_lines :
    ∃ out, regenerate {} "#[derive(Bean)]\r\nstruct A {}" = .ok (.rewritten out) ∧
      KeepsAuthor {} "#[derive(Bean)]\r\nstruct A {}" out := by
  have hfound : foundWith (fun r => decide (r.region = none) && decide (r.importPlace = 0) &&
      decide (40 < (r.splicedLines {} (splitLines "#[derive(Bean)]\r\nstruct A {}")).length))
      (SourceReading.ofLines {} ((splitLines "#[derive(Bean)]\r\nstruct A {}").map Line.text)) =
      true := by decide +kernel
  obtain ⟨r, hread, hchecks⟩ := exists_of_foundWith hfound
  simp only [Bool.and_eq_true, decide_eq_true_eq] at hchecks
  obtain ⟨⟨hregion, hplace⟩, hlength⟩ := hchecks
  have hshort : "#[derive(Bean)]\r\nstruct A {}".toList.length = 28 := by decide +kernel
  have hrun := regenerate_of_region_none hread hregion hplace (by omega)
  exact ⟨_, hrun, regenerate_keeps_author {} _ hrun rfl⟩

end Beans
