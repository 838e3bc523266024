import Beans.Proofs.Region.ImportPlace
import Beans.Proofs.Text.Settled

/-!
# Reading a regenerated text

The author's lines keep their terminators when a text is regenerated, and the lines that are put in
get the terminator of the settings. Where both kinds meet, an empty line can merge with the line
before it: a blank line that is put in behind a line of the author's, and an author's blank line
behind a line that is put in. Everywhere else the lines of the regenerated text are those that were
joined, if the code has no line break inside of a line.

## Main definitions

* `Beans.SourceReading.StaysApart` — no two of the fresh lines merge, and each is on one line.

## Main results

* `Beans.SourceReading.isChain_freshLines_iff` — where fresh lines merge.
* `Beans.splitLines_rewritten` — when the lines of a regenerated text are those that were joined.
-/

set_option autoImplicit false

namespace Beans

open Syntax Text

/-! ## Neighbours -/

section

variable {eol : Ending} {l m : Line}

lemma closed_bareLine (t : String) : (bareLine t).closed eol = ⟨t, eol⟩ := rfl

lemma not_merges_of_text_ne (l : Line) (hm : m.text ≠ "") : ¬ l.Merges eol m := by
  rintro ⟨-, hclosed⟩
  rw [← m.text_closed eol, hclosed] at hm
  exact hm rfl

/-- A line that is put in merges with an author's empty line. -/
lemma bareLine_merges_iff (t : String) :
    (bareLine t).Merges eol m ↔ eol = .carriage ∧ m = ⟨"", .feed⟩ := by
  refine and_congr_right fun heol => ?_
  obtain rfl : eol = .carriage := heol
  unfold Line.closed
  split
  · refine iff_of_false (by simp) ?_
    rintro rfl
    contradiction
  · rfl

/-- A line merges with a blank line that is put in after it. -/
lemma merges_bareLine_iff : l.Merges eol (bareLine "") ↔ eol = .feed ∧ l.ending = .carriage := by
  have hblank : (bareLine "").closed eol = ⟨"", .feed⟩ ↔ eol = .feed := by
    rw [closed_bareLine, Line.mk.injEq]
    exact and_iff_right rfl
  rw [Line.Merges, hblank, and_comm]
  refine and_congr_right fun heol => ?_
  subst heol
  unfold Line.closed
  split
  · rename_i hnone
    rw [hnone]
    exact iff_of_false (by simp) (by simp)
  · rfl

lemma isChain_map_bareLine (texts : List String) :
    (texts.map bareLine).IsChain fun l m => ¬ l.Merges eol m := by
  refine (List.isChain_map bareLine).mpr (List.pairwise_of_forall fun a b => ?_).isChain
  rw [bareLine_merges_iff]
  rintro ⟨-, hfeed⟩
  cases hfeed

/-- No two lines of a text merge when they are joined. -/
lemma isChain_splitLines (text : String) :
    (splitLines text).IsChain fun l m => ¬ l.Merges eol m := by
  refine (isChain_readLines [] text.toList).imp_of_mem_imp fun l m _ hm hapart => ?_
  obtain ⟨hnone, hmerge⟩ := hapart
  have hproper : m.Proper := (singleLine_of_mem_readLines _ (List.forall_mem_nil _) m hm).2
  rw [Line.Merges, ← Line.eq_feed_iff_closed hproper, Line.closed, if_neg hnone]
  exact hmerge

/-- After lines that are put in, only an author's empty line merges. -/
lemma merges_after_bare_iff (ls : List Line) {texts : List String} (hne : texts ≠ [])
    (next : Option Line) :
    (∀ x ∈ (ls ++ texts.map bareLine).getLast?, ∀ y ∈ next, ¬ x.Merges eol y) ↔
      (eol = .carriage → next ≠ some ⟨"", .feed⟩) := by
  obtain ⟨init, t, rfl⟩ := (List.eq_nil_or_concat texts).resolve_left hne
  have hlast : (ls ++ (init.concat t).map bareLine).getLast? = some (bareLine t) := by simp
  rw [hlast]
  constructor
  · intro hmerges heol hnext
    exact hmerges _ rfl _ hnext ((bareLine_merges_iff t).mpr ⟨heol, rfl⟩)
  · rintro hkept x ⟨⟩ y hy hmerges
    obtain ⟨heol, rfl⟩ := (bareLine_merges_iff t).mp hmerges
    exact hkept heol hy

/-- With an import put in between, the lines before it and those after it stay apart as before. The
line after it can merge with it. -/
lemma isChain_insert_iff (names gap : List String) (ls : List Line) (n : Nat) :
    (ls.take n ++ (importLine names :: gap).map bareLine ++ ls.drop n).IsChain
        (fun l m => ¬ l.Merges eol m) ↔
      (ls.take n).IsChain (fun l m => ¬ l.Merges eol m) ∧
        (ls.drop n).IsChain (fun l m => ¬ l.Merges eol m) ∧
        (eol = .carriage → ls[n]? ≠ some ⟨"", .feed⟩) := by
  have himport (x : Line) : ¬ x.Merges eol (bareLine (importLine names)) :=
    not_merges_of_text_ne x fun hempty => by
      have hopen := (openEnded_importLine names).1
      rw [show importLine names = "" from hempty] at hopen
      exact hopen rfl
  have hbefore : (ls.take n ++ (importLine names :: gap).map bareLine).IsChain
      (fun l m => ¬ l.Merges eol m) ↔ (ls.take n).IsChain (fun l m => ¬ l.Merges eol m) := by
    rw [List.isChain_append]
    refine and_iff_left ⟨isChain_map_bareLine _, fun x _ y hy => ?_⟩
    obtain rfl : bareLine (importLine names) = y := Option.some.inj hy
    exact himport x
  rw [List.isChain_append, hbefore, List.head?_drop,
    merges_after_bare_iff _ (List.cons_ne_nil _ _)]

/-- Neighbours at a place are neighbours before or after any other place. -/
lemma rel_of_isChain_take_of_drop {α : Type} {R : α → α → Prop} {xs ys : List α} {n : Nat}
    (htake : ((xs ++ ys).take n).IsChain R) (hdrop : ((xs ++ ys).drop n).IsChain R)
    (hne : n ≠ xs.length) : ∀ x ∈ xs.getLast?, ∀ y ∈ ys.head?, R x y := by
  rcases Nat.lt_or_gt_of_ne hne with hlt | hgt
  · rw [List.drop_append_of_le_length hlt.le, List.isChain_append, List.getLast?_drop,
      if_neg (Nat.not_le.mpr hlt)] at hdrop
    exact hdrop.2.2
  · rw [List.take_append, List.take_of_length_le hgt.le, List.isChain_append, List.head?_take,
      if_neg (by omega)] at htake
    exact htake.2.2

end

namespace SourceReading

/-! ## Where lines of both kinds meet -/

section

variable (r : SourceReading) (s : Settings) (lines : List Line)

/-- The blank line before a new block does not merge with the last line of the bean. -/
def BeanApart : Prop :=
  s.eol.ending = .feed → r.region = none →
    ∀ l ∈ lines[structEnd r.bean - 1]?, l.ending ≠ .carriage

/-- The line after the block does not merge with the last line of the block. -/
def BlockApart : Prop := s.eol.ending = .carriage → lines[r.tailStart lines]? ≠ some ⟨"", .feed⟩

/-- The line after the import, if there is one, does not merge with it. -/
def ImportApart : Prop :=
  s.eol.ending = .carriage → r.missing ≠ [] →
    (r.splicedLines s lines)[r.importPlace]? ≠ some ⟨"", .feed⟩

/-- Each of the fresh lines is on one line and does not merge with the next one. -/
structure StaysApart : Prop where
  /-- No line of the code has a line break in it. -/
  singleLines : ∀ line ∈ r.body s, SingleLine line
  /-- Where a new block is put in. -/
  bean : r.BeanApart s lines
  /-- Where the block ends. -/
  block : r.BlockApart s lines
  /-- Where an import is put in. -/
  imports : r.ImportApart s lines

end

section

variable {s : Settings} {text : String} {r : SourceReading}
  (h : SourceReading.ofLines s ((splitLines text).map Line.text) = .ok (some r))

include h

/-- The first line of the block merges with the author's line before it only if that is the last
line of the bean, and there is no region. -/
lemma merges_block_iff (rest : List String) :
    (∀ x ∈ ((splitLines text).take (r.headEnd (splitLines text))).getLast?,
      ∀ y ∈ (((if r.region.isSome then [] else [""]) ++ startMarker :: rest).map bareLine).head?,
        ¬ x.Merges s.eol.ending y) ↔ r.BeanApart s (splitLines text) := by
  unfold BeanApart
  cases hregion : r.region with
  | some region =>
    refine iff_of_true (fun x _ y hy => ?_) fun _ hnone => by cases hnone
    obtain rfl : bareLine startMarker = y := Option.some.inj hy
    exact not_merges_of_text_ne x (by decide)
  | none =>
    obtain ⟨hfirst, hend, hlines⟩ := lines_bean h
    have hlast : ((splitLines text).take (structEnd r.bean)).getLast? =
        (splitLines text)[structEnd r.bean - 1]? := by
      rw [List.getLast?_take, if_neg (by omega), List.getElem?_eq_getElem (by omega)]
      rfl
    rw [(headEnd_spec h).2 hregion, hlast]
    constructor
    · intro hmerges heol _ l hl hcarriage
      exact hmerges l hl _ rfl (merges_bareLine_iff.mpr ⟨heol, hcarriage⟩)
    · rintro hkept x hx y hy
      obtain rfl : bareLine "" = y := Option.some.inj hy
      rw [merges_bareLine_iff]
      rintro ⟨heol, hcarriage⟩
      exact hkept heol rfl x hx hcarriage

/-- The block between the author's lines, and what it takes that it merges with none of them. -/
lemma exists_block :
    let front := (splitLines text).take (r.headEnd (splitLines text))
    let tail := (splitLines text).drop (r.tailStart (splitLines text))
    ∃ block, block ≠ [] ∧
      r.splicedLines s (splitLines text) = front ++ block.map bareLine ++ tail ∧
      ((∀ x ∈ front.getLast?, ∀ y ∈ (block.map bareLine).head?, ¬ x.Merges s.eol.ending y) ↔
        r.BeanApart s (splitLines text)) ∧
      ((∀ x ∈ (front ++ block.map bareLine).getLast?, ∀ y ∈ tail.head?,
        ¬ x.Merges s.eol.ending y) ↔ r.BlockApart s (splitLines text)) := by
  intro front tail
  obtain ⟨gap, -, -, hspliced⟩ := r.exists_splicedLines_eq s (splitLines text)
  rw [List.append_assoc _ _ (endMarker :: gap), List.cons_append] at hspliced
  refine ⟨_, by simp, hspliced, merges_block_iff h _, ?_⟩
  rw [merges_after_bare_iff front (by simp), List.head?_drop]
  rfl

/-- Where spliced lines merge. -/
lemma isChain_splicedLines_iff :
    (r.splicedLines s (splitLines text)).IsChain (fun l m => ¬ l.Merges s.eol.ending m) ↔
      r.BeanApart s (splitLines text) ∧ r.BlockApart s (splitLines text) := by
  obtain ⟨block, -, hspliced, hbean, hblock⟩ := exists_block h
  have hlines : (splitLines text).IsChain fun l m => ¬ l.Merges s.eol.ending m :=
    isChain_splitLines text
  rw [hspliced, List.isChain_append, List.isChain_append, hbean, hblock]
  constructor
  · rintro ⟨⟨-, -, hfirst⟩, -, hlast⟩
    exact ⟨hfirst, hlast⟩
  · rintro ⟨hfirst, hlast⟩
    exact ⟨⟨hlines.take _, isChain_map_bareLine block, hfirst⟩, hlines.drop _, hlast⟩

/-- **Where fresh lines merge.** An import that comes between two lines keeps these from merging,
but then the second one merges with the import, as only an author's empty line merges with the line
before it there: the blank line that is put in behind the bean is behind the import.

**Proof sketch.** Without an import the fresh lines are the spliced ones. With one, neighbours on
either side of it are neighbours in the spliced lines, and it is itself followed by one line only.
-/
theorem isChain_freshLines_iff :
    (r.freshLines s (splitLines text)).IsChain (fun l m => ¬ l.Merges s.eol.ending m) ↔
      r.BeanApart s (splitLines text) ∧ r.BlockApart s (splitLines text) ∧
        r.ImportApart s (splitLines text) := by
  by_cases hmissing : r.missing = []
  · have hnone : r.ImportApart s (splitLines text) := fun _ hne => absurd hmissing hne
    rw [freshLines, if_pos (List.isEmpty_iff.mpr hmissing), isChain_splicedLines_iff h,
      and_iff_left hnone]
  obtain ⟨gap, -, hinsert⟩ :=
    insertImport_eq r.importPlace r.missing (r.splicedLines s (splitLines text))
  rw [freshLines, if_neg (mt List.isEmpty_iff.mp hmissing), hinsert, isChain_insert_iff]
  constructor
  · rintro ⟨htake, hdrop, hnext⟩
    obtain ⟨block, hne, hspliced, hbean, hblock⟩ := exists_block h
    rw [hspliced] at htake hdrop
    refine ⟨fun heol hnone => ?_, fun heol => ?_, fun heol _ => hnext heol⟩
    · have hplace : r.importPlace ≠
          ((splitLines text).take (r.headEnd (splitLines text))).length := by
        obtain ⟨hstart, hend, hcount⟩ := lines_bean h
        have hle := r.importPlace_le
        rw [(headEnd_spec h).2 hnone, List.length_take]
        omega
      rw [List.append_assoc] at htake hdrop
      have hrel := rel_of_isChain_take_of_drop htake hdrop hplace
      rw [List.head?_append_of_ne_nil _ (by simpa using hne)] at hrel
      exact hbean.mp hrel heol hnone
    · by_cases hplace : r.importPlace =
          ((splitLines text).take (r.headEnd (splitLines text)) ++ block.map bareLine).length
      · rw [hplace, hspliced, List.getElem?_append_right le_rfl, Nat.sub_self,
          List.getElem?_drop] at hnext
        exact hnext heol
      · exact hblock.mp (rel_of_isChain_take_of_drop htake hdrop hplace) heol
  · rintro ⟨hbean, hblock, himport⟩
    have hall := (isChain_splicedLines_iff h).mpr ⟨hbean, hblock⟩
    exact ⟨hall.take _, hall.drop _, fun heol => himport heol hmissing⟩

/-- Only code can have line breaks inside of lines: what is put in beside it has none.

**Proof sketch.** The author's lines were cut at line breaks, and markers, blank lines and imports
have none. So only the code is left. -/
lemma singleLine_freshLines_iff :
    (∀ l ∈ r.freshLines s (splitLines text), SingleLine l.text) ↔
      ∀ line ∈ r.body s, SingleLine line := by
  have hauthor : ∀ l ∈ splitLines text, SingleLine l.text := fun l hl =>
    (singleLine_of_mem_readLines _ (List.forall_mem_nil _) l hl).1
  have hblank {gap : List String} (hgap : gap.Sublist [""]) : ∀ t ∈ gap, SingleLine t := by
    intro t ht
    rw [List.mem_singleton.mp (hgap.subset ht)]
    simp [SingleLine]
  have hsplice : (∀ l ∈ r.splicedLines s (splitLines text), SingleLine l.text) ↔
      ∀ line ∈ r.body s, SingleLine line := by
    obtain ⟨gap, hgap, -, hspliced⟩ := r.exists_splicedLines_eq s (splitLines text)
    rw [hspliced, List.forall_mem_append, List.forall_mem_append, List.forall_mem_map]
    constructor
    · rintro ⟨⟨-, hblock⟩, -⟩ line hline
      exact hblock line (by simp [hline])
    · intro hbody
      refine ⟨⟨fun l hl => hauthor l (List.mem_of_mem_take hl), ?_⟩,
        fun l hl => hauthor l (List.mem_of_mem_drop hl)⟩
      rw [List.forall_mem_append, List.forall_mem_append, List.forall_mem_cons,
        List.forall_mem_cons]
      refine ⟨⟨hblank ?_, singleLine_startMarker, hbody⟩, singleLine_endMarker, hblank hgap⟩
      split
      · exact List.nil_sublist _
      · exact List.Sublist.refl _
  by_cases hmissing : r.missing = []
  · rw [freshLines, if_pos (List.isEmpty_iff.mpr hmissing), hsplice]
  obtain ⟨gap, hgap, hinsert⟩ :=
    insertImport_eq r.importPlace r.missing (r.splicedLines s (splitLines text))
  have himport : ∀ l ∈ (importLine r.missing :: gap).map bareLine, SingleLine l.text := by
    rw [List.forall_mem_map, List.forall_mem_cons]
    exact ⟨singleLine_importLine (singleLine_missing h), hblank hgap⟩
  rw [freshLines, if_neg (mt List.isEmpty_iff.mp hmissing), hinsert, List.forall_mem_append,
    List.forall_mem_append, and_iff_left himport, ← List.forall_mem_append,
    List.take_append_drop, hsplice]

end

end SourceReading

/-! ## The new text -/

/-- **The lines of a regenerated text.** The new text is that of the lines with a patch, where each
line keeps the terminator that it has or gets that of the settings. It is read again as these lines
if and only if the code has no line break inside of a line and no line merges with the next one: not
the blank line before a new block with the last line of the bean, and not an author's empty line
with the end of the block or with the import before it. -/
theorem splitLines_rewritten {s : Settings} {text out : String} {r : SourceReading}
    (hread : SourceReading.ofLines s ((splitLines text).map Line.text) = .ok (some r))
    (hrun : regenerate s text = .ok (.rewritten out)) :
    ∃ p : Patch, p.Regenerates s text r ∧
      (splitLines out = settle s.eol.ending (endsLine text.toList) (p.strands.map Strand.line) ↔
        r.StaysApart s (splitLines text)) := by
  have heol : s.eol.ending ≠ .none := by cases s.eol <;> decide
  obtain ⟨p, hp, hfresh⟩ := exists_regenerates hread
  refine ⟨p, hp, ?_⟩
  have hlast : ∀ l ∈ (r.freshLines s (splitLines text)).getLast?, l.Proper := by
    intro l hl hnone
    rcases r.closes_freshLines s (splitLines text) with ⟨last, hauthor, hfresh⟩ | ⟨t, hfresh, ht⟩
    · obtain rfl : l = last := Option.some.inj (hl.symm.trans hfresh)
      exact (openEnded_of_mem_splitLines (List.mem_of_getLast? hauthor) hnone).1
    · obtain rfl : l = ⟨t, .none⟩ := Option.some.inj (hl.symm.trans hfresh)
      exact ht.1
  rw [hfresh, eq_rewrite_of_rewritten hread hrun, SourceReading.rewrite, any_getLast?_splitLines,
    splitLines, String.toList_ofList, readLines_joinLines_iff heol hlast,
    SourceReading.singleLine_freshLines_iff hread, SourceReading.isChain_freshLines_iff hread]
  constructor
  · rintro ⟨hsingle, hbean, hblock, himport⟩
    exact ⟨hsingle, hbean, hblock, himport⟩
  · rintro ⟨hsingle, hbean, hblock, himport⟩
    exact ⟨hsingle, hbean, hblock, himport⟩

/-- The blank line behind a bean that ends with a carriage return is not read again. -/
theorem splitLines_rewritten_carriage :
    let text := "#[derive(Bean)]\rstruct A {}\r"
    ∃ r out, ∃ p : Patch,
      SourceReading.ofLines {} ((splitLines text).map Line.text) = .ok (some r) ∧
      regenerate {} text = .ok (.rewritten out) ∧ p.Regenerates {} text r ∧
      splitLines out ≠ settle .feed true (p.strands.map Strand.line) := by
  intro text
  have hfound : foundWith (fun r => decide (r.region = none) && decide (r.importPlace = 0) &&
      decide (structEnd r.bean = 2) && decide (40 < (r.splicedLines {} (splitLines text)).length))
      (SourceReading.ofLines {} ((splitLines text).map Line.text)) = true := by decide +kernel
  obtain ⟨r, hread, hchecks⟩ := exists_of_foundWith hfound
  simp only [Bool.and_eq_true, decide_eq_true_eq] at hchecks
  obtain ⟨⟨⟨hregion, hplace⟩, hend⟩, hlength⟩ := hchecks
  have hrun := regenerate_of_region_none hread hregion hplace (Nat.lt_trans (by decide) hlength)
  obtain ⟨p, hp, hlines⟩ := splitLines_rewritten hread hrun
  have hends : endsLine text.toList = true := by decide +kernel
  rw [hends] at hlines
  refine ⟨r, _, p, hread, hrun, hp, fun hsame => ?_⟩
  have hapart := (hlines.mp hsame).bean rfl hregion
  rw [hend] at hapart
  exact hapart ⟨"struct A {}", .carriage⟩ (by decide +kernel) rfl

end Beans
