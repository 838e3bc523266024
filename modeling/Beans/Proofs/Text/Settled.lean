import Mathlib.Data.List.Chain
import Mathlib.Tactic.Common
import Beans.Proofs.Text.Lines

/-!
# Lines that are read as they were joined

When lines are joined, each that has no terminator of its own gets one. The text is read again as
the same lines, with these terminators, if each of them is on one line and no two neighbours merge.
Two lines merge if the first ends with a carriage return and the second is empty and ends with a
line feed, for then both characters are one terminator. It does not matter whether the lines had
these terminators before or get them when they are joined.

## Main definitions

* `Beans.Text.settle` — lines with the terminators that they get when they are joined.
* `Beans.Text.Line.Merges` — a line merges with the next one when they are joined.

## Main results

* `Beans.Text.readLines_flatMap_iff` — which lists of lines are read again as they are.
* `Beans.Text.readLines_joinLines_iff` — which lists of lines are read again as they are joined.
-/

set_option autoImplicit false

namespace Beans.Text

/-! ## Neighbours -/

/-- A line ends before the next one: it has a terminator, and this is not a carriage return if the
next one is empty and has a line feed. -/
def Line.Apart (l m : Line) : Prop := l.ending ≠ .none ∧ ¬ (l.ending = .carriage ∧ m = ⟨"", .feed⟩)

/-- A line of a text that has no terminator is not empty. -/
def Line.Proper (l : Line) : Prop := l.ending = .none → l.text.toList ≠ []

lemma Line.apart_of_ne {l : Line} (hnone : l.ending ≠ .none) (hcarriage : l.ending ≠ .carriage)
    (m : Line) : l.Apart m := ⟨hnone, fun h => hcarriage h.1⟩

/-- Lines that are read are apart. -/
theorem isChain_readLines (held cs : List Char) : (readLines held cs).IsChain Line.Apart := by
  have hcons {l : Line} {rest : List Char} (hrest : (readLines [] rest).IsChain Line.Apart)
      (hl : ∀ m ∈ (readLines [] rest).head?, l.Apart m) :
      (l :: readLines [] rest).IsChain Line.Apart := hrest.cons hl
  fun_induction readLines held cs with
  | case1 => exact .nil
  | case2 => exact .singleton _
  | case3 _ rest ih => exact hcons ih fun m _ => Line.apart_of_ne (by simp) (by simp) m
  | case4 _ rest hfeed ih =>
    refine hcons ih fun m hm => ⟨by simp, ?_⟩
    rintro ⟨-, rfl⟩
    obtain ⟨others, hread⟩ := List.head?_eq_some_iff.mp hm
    have hchars := flatten_readLines [] rest
    rw [hread] at hchars
    exact hfeed _ hchars.symm
  | case5 _ rest ih => exact hcons ih fun m _ => Line.apart_of_ne (by simp) (by simp) m
  | case6 _ _ _ _ _ _ ih => exact ih

/-- A line on one line starts with a line feed only if it is empty and ends with that. -/
lemma Line.eq_of_head?_chars {m : Line} (hm : SingleLine m.text) {rest : List Char}
    (hne : m.chars ≠ []) (h : (m.chars ++ rest).head? = some '\n') : m = ⟨"", .feed⟩ := by
  obtain ⟨text, ending⟩ := m
  cases htext : text.toList with
  | nil =>
    obtain rfl : text = "" := String.toList_eq_nil_iff.mp htext
    cases ending with
    | feed => rfl
    | none => exact absurd rfl hne
    | returnFeed | carriage => cases h
  | cons c cs =>
    have hc := hm c (by simp [htext])
    simp only [Line.chars, htext, List.cons_append, List.head?_cons, Option.some.injEq] at h
    subst h
    cases hc

lemma Line.Proper.chars_ne_nil {m : Line} (hm : m.Proper) : m.chars ≠ [] := by
  intro hchars
  obtain ⟨htext, hending⟩ := List.append_eq_nil_iff.mp hchars
  cases hkind : m.ending with
  | none => exact hm hkind htext
  | feed | returnFeed | carriage =>
    rw [hkind] at hending
    cases hending

/-- **Reading lines.** Lines are read again as they are if and only if each is on one line, and
apart from the next one.

**Proof sketch.** What is read has these properties. Conversely the reader takes the first line as
it is: no break stands inside of it, and its terminator does not run together with what follows. -/
theorem readLines_flatMap_iff {ls : List Line} :
    readLines [] (ls.flatMap Line.chars) = ls ↔
      (∀ l ∈ ls, SingleLine l.text ∧ l.Proper) ∧ ls.IsChain Line.Apart := by
  constructor
  · intro h
    rw [← h]
    exact ⟨singleLine_of_mem_readLines _ (List.forall_mem_nil _), isChain_readLines _ _⟩
  · rintro ⟨hlines, hapart⟩
    induction ls with
    | nil => rfl
    | cons l ls ih =>
      obtain ⟨⟨hsingle, hproper⟩, hrest⟩ := List.forall_mem_cons.mp hlines
      obtain ⟨hhead, htail⟩ := List.isChain_cons.mp hapart
      have htext : String.ofList l.text.toList.reverse.reverse = l.text := by
        rw [List.reverse_reverse, String.ofList_toList]
      rw [List.flatMap_cons, Line.chars, List.append_assoc]
      by_cases hnone : l.ending = .none
      · -- only the last line has no terminator
        obtain rfl : ls = [] := by
          cases ls with
          | nil => rfl
          | cons m ms => exact absurd hnone (hhead m rfl).1
        obtain ⟨text, ending⟩ := l
        cases hheld : text.toList.reverse with
        | nil => exact absurd (List.reverse_eq_nil_iff.mp hheld) (hproper hnone)
        | cons c cs =>
          obtain rfl : ending = .none := hnone
          rw [readLines_held [] _ hsingle, hheld]
          change [(⟨String.ofList (c :: cs ++ []).reverse, .none⟩ : Line)] = _
          rw [List.append_nil, ← hheld, htext]
      · rw [readLines_line hsingle hnone, ih hrest htail]
        intro hcarriage hfeed
        cases ls with
        | nil => cases hfeed
        | cons m ms =>
          obtain ⟨hm, hmproper⟩ := hrest m List.mem_cons_self
          exact (hhead m rfl).2 ⟨hcarriage, m.eq_of_head?_chars hm hmproper.chars_ne_nil hfeed⟩

/-! ## Joined lines -/

/-- A line with a terminator, which is `eol` if it has none of its own. -/
def Line.closed (eol : Ending) (l : Line) : Line := if l.ending = .none then ⟨l.text, eol⟩ else l

/-- Lines with the terminators that they have when they are joined. -/
def settle (eol : Ending) (terminated : Bool) : List Line → List Line
  | [] => []
  | [l] => [if terminated then l.closed eol else l]
  | l :: rest => l.closed eol :: settle eol terminated rest

/-- A line merges with the next one when they are joined. -/
def Line.Merges (eol : Ending) (l m : Line) : Prop :=
  (l.closed eol).ending = .carriage ∧ m.closed eol = ⟨"", .feed⟩

section

variable {eol : Ending} {terminated : Bool} {l m : Line} {ls : List Line}

lemma Line.text_closed (eol : Ending) (l : Line) : (l.closed eol).text = l.text := by
  unfold closed
  split <;> rfl

lemma Line.ending_closed_ne_none (heol : eol ≠ .none) (l : Line) :
    (l.closed eol).ending ≠ .none := by
  unfold closed
  split
  · exact heol
  · assumption

lemma joinLines_eq_flatMap_settle (eol : Ending) (terminated : Bool) (ls : List Line) :
    joinLines eol terminated ls = (settle eol terminated ls).flatMap Line.chars := by
  fun_induction settle eol terminated ls with
  | case1 => rfl
  | case2 l =>
    by_cases hl : l.ending = .none <;> cases terminated <;>
      simp [joinLines, Line.chars, Line.closed, hl, Ending.chars]
  | case3 l rest hne ih =>
    rw [joinLines, ih, List.flatMap_cons]
    · by_cases hl : l.ending = .none <;> simp [Line.chars, Line.closed, hl]
    · exact hne

/-- Settled lines have the texts of the lines. -/
lemma map_text_settle (eol : Ending) (terminated : Bool) (ls : List Line) :
    (settle eol terminated ls).map Line.text = ls.map Line.text := by
  fun_induction settle eol terminated ls with
  | case1 => rfl
  | case2 l =>
    cases terminated with
    | false => rfl
    | true => simp [Line.text_closed]
  | case3 l rest _ ih => rw [List.map_cons, List.map_cons, ih, Line.text_closed]

/-- Settled lines without a terminator are not empty, if the last of the lines is not empty where it
has none. -/
lemma proper_of_mem_settle (heol : eol ≠ .none) (hlast : ∀ l ∈ ls.getLast?, l.Proper) :
    ∀ l ∈ settle eol terminated ls, l.Proper := by
  fun_induction settle eol terminated ls with
  | case1 => exact List.forall_mem_nil _
  | case2 l =>
    rw [List.forall_mem_singleton]
    cases terminated with
    | false => exact hlast l rfl
    | true => exact fun h => absurd h (l.ending_closed_ne_none heol)
  | case3 l rest hne ih =>
    have hrest : rest ≠ [] := fun hnil => hne (hnil ▸ rfl)
    rw [List.getLast?_cons_of_ne_nil hrest] at hlast
    exact List.forall_mem_cons.mpr ⟨fun h => absurd h (l.ending_closed_ne_none heol), ih hlast⟩

/-- The last line is an empty one with a line feed alike whether it is closed or not, if it is not
empty where it has no terminator. -/
lemma Line.eq_feed_iff_closed (hm : m.Proper) : m = ⟨"", .feed⟩ ↔ m.closed eol = ⟨"", .feed⟩ := by
  by_cases hnone : m.ending = .none
  · refine iff_of_false (fun h => ?_) fun h => ?_
    · rw [h] at hnone
      cases hnone
    · have htext := congrArg Line.text h
      rw [text_closed] at htext
      exact hm hnone (by rw [htext]; rfl)
  · rw [closed, if_neg hnone]

/-- Settled lines are apart if no line merges with the next one.

**Proof sketch.** Induction on the lines. All lines but the last are closed, so a pair of neighbours
changes in the same way wherever it stands; for the last pair it matters that the last line is
proper. -/
lemma isChain_settle_iff (heol : eol ≠ .none) (hlast : ∀ l ∈ ls.getLast?, l.Proper) :
    (settle eol terminated ls).IsChain Line.Apart ↔ ls.IsChain fun l m => ¬ l.Merges eol m := by
  have hhead (l : Line) {m m' : Line} (hm : m' = ⟨"", .feed⟩ ↔ m.closed eol = ⟨"", .feed⟩) :
      (l.closed eol).Apart m' ↔ ¬ l.Merges eol m := by
    rw [Line.Apart, Line.Merges, hm]
    exact and_iff_right (l.ending_closed_ne_none heol)
  induction ls with
  | nil => exact iff_of_true .nil .nil
  | cons l rest ih =>
    cases rest with
    | nil => exact iff_of_true (.singleton _) (.singleton _)
    | cons m rest =>
      have hrest : ∀ l ∈ (m :: rest).getLast?, l.Proper := hlast
      have hstep (m' : Line) (ms : List Line) (hm : m' = ⟨"", .feed⟩ ↔ m.closed eol = ⟨"", .feed⟩)
          (hsettle : settle eol terminated (m :: rest) = m' :: ms) :
          (settle eol terminated (l :: m :: rest)).IsChain Line.Apart ↔
            (l :: m :: rest).IsChain fun l m => ¬ l.Merges eol m := by
        have hcons : settle eol terminated (l :: m :: rest) =
            l.closed eol :: settle eol terminated (m :: rest) := rfl
        rw [hcons, hsettle, List.isChain_cons_cons, List.isChain_cons_cons, hhead l hm, ← hsettle]
        exact and_congr_right fun _ => ih hrest
      cases rest with
      | cons n rest => exact hstep _ _ Iff.rfl rfl
      | nil =>
        cases terminated with
        | true => exact hstep _ _ Iff.rfl rfl
        | false => exact hstep _ _ (Line.eq_feed_iff_closed (hlast m rfl)) rfl

/-- **Reading joined lines.** Lines are read again with the terminators that they have when they are
joined if and only if each is on one line and none merges with the next one. -/
theorem readLines_joinLines_iff (heol : eol ≠ .none) (hlast : ∀ l ∈ ls.getLast?, l.Proper) :
    readLines [] (joinLines eol terminated ls) = settle eol terminated ls ↔
      (∀ l ∈ ls, SingleLine l.text) ∧ ls.IsChain fun l m => ¬ l.Merges eol m := by
  rw [joinLines_eq_flatMap_settle, readLines_flatMap_iff, isChain_settle_iff heol hlast]
  refine and_congr_left fun _ => ?_
  have htexts : (∀ l ∈ settle eol terminated ls, SingleLine l.text) ↔
      ∀ l ∈ ls, SingleLine l.text := by
    rw [← List.forall_mem_map (f := Line.text), map_text_settle, List.forall_mem_map]
  rw [← htexts]
  exact ⟨fun h l hl => (h l hl).1, fun h l hl => ⟨h l hl, proper_of_mem_settle heol hlast l hl⟩⟩

end

end Beans.Text
