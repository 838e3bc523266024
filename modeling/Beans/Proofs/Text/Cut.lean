import Mathlib.Tactic.Common
import Beans.Text.Search

/-!
# Cutting and joining texts

The pieces of a text between separators are those of which the text is joined, and cutting at the
first occurrence of a character or after a given start takes a text apart in the only way there is.

## Main results

* `Beans.Text.cutWhere_eq_splitOnP`, `Beans.Text.toList_joinWith` — cutting and joining are those of
  lists.
* `Beans.Text.not_of_mem_cutWhere` — no separator is in a piece.
* `Beans.Text.joinWith_append`, `Beans.Text.timesText_succ` — joining texts in two groups.
* `Beans.Text.splitOnce_eq_some_iff`, `Beans.Text.stripStart?_eq_some_iff`,
  `Beans.Text.stripEnd?_eq_some_iff` — what a text is made of that was cut in two.
-/

set_option autoImplicit false

open List

namespace Beans.Text

/-! ## Pieces between separators -/

section

variable {p : Char → Bool} {cs piece : List Char} {c : Char}

lemma cutWhere_eq_splitOnP (p : Char → Bool) (cs : List Char) : cutWhere p cs = cs.splitOnP p := by
  induction cs with
  | nil => rfl
  | cons c cs ih =>
    rw [splitOnP_cons_eq_if_modifyHead, ← ih, cutWhere]
    cases hpieces : cutWhere p cs with
    | nil => exact absurd (ih.symm.trans hpieces) (splitOnP_ne_nil p cs)
    | cons piece pieces => rfl

/-- No separator is in a piece. -/
lemma not_of_mem_cutWhere (h : piece ∈ cutWhere p cs) (hc : c ∈ piece) : p c = false := by
  induction cs generalizing piece with
  | nil =>
    obtain rfl := mem_singleton.mp h
    cases hc
  | cons d cs ih =>
    rw [cutWhere] at h
    cases hd : p d with
    | true =>
      rw [if_pos hd] at h
      rcases mem_cons.mp h with rfl | h
      · cases hc
      · exact ih h hc
    | false =>
      rw [if_neg (by simp [hd])] at h
      -- the character goes in front of the first piece
      split at h
      · obtain rfl := mem_singleton.mp h
        rwa [mem_singleton.mp hc]
      · next first rest hpieces =>
        rw [hpieces] at ih
        rcases mem_cons.mp h with rfl | h
        · rcases mem_cons.mp hc with rfl | hc
          · exact hd
          · exact ih mem_cons_self hc
        · exact ih (mem_cons_of_mem first h) hc

end

/-! ## Joined texts -/

lemma toList_joinWith (sep : String) (texts : List String) :
    (joinWith sep texts).toList = sep.toList.intercalate (texts.map String.toList) := by
  induction texts with
  | nil => rfl
  | cons s texts ih =>
    cases texts with
    | nil => exact (intercalate_singleton ..).symm
    | cons t texts =>
      change (s ++ sep ++ joinWith sep (t :: texts)).toList = _
      rw [String.toList_append, String.toList_append, ih]
      simp only [map_cons, intercalate_cons_cons]

/-- Texts in two groups are joined group by group. -/
lemma joinWith_append (sep : String) {texts others : List String} (htexts : texts ≠ [])
    (hothers : others ≠ []) :
    joinWith sep (texts ++ others) = joinWith sep texts ++ sep ++ joinWith sep others := by
  induction texts with
  | nil => exact absurd rfl htexts
  | cons s texts ih =>
    cases texts with
    | nil =>
      cases others with
      | nil => exact absurd rfl hothers
      | cons t others => rfl
    | cons t texts =>
      change s ++ sep ++ joinWith sep ((t :: texts) ++ others) = _
      rw [ih (cons_ne_nil t texts)]
      simp only [joinWith, String.append_assoc]

/-- The last time a text is written may be counted apart instead of the first. -/
lemma timesText_succ (n : Nat) (s : String) : timesText (n + 1) s = timesText n s ++ s := by
  induction n with
  | zero => simp [timesText]
  | succ n ih =>
    calc timesText (n + 2) s = s ++ timesText (n + 1) s := rfl
      _ = s ++ timesText n s ++ s := by rw [ih, String.append_assoc]

/-! ## Texts cut in two -/

section

variable {sep : Char} {start cs before after rest tail : List Char}

/-- A character at which nothing is cut does not occur. -/
lemma splitOnce_eq_none_iff : splitOnce sep cs = none ↔ sep ∉ cs := by
  induction cs with
  | nil => simp [splitOnce]
  | cons c cs ih =>
    rw [splitOnce, mem_cons, not_or, ← ih]
    by_cases hc : c = sep
    · simp [hc]
    · simp [hc, Ne.symm hc]

/-- A text is cut at the first occurrence of a character. -/
lemma splitOnce_eq_some_iff :
    splitOnce sep cs = some (before, after) ↔ cs = before ++ sep :: after ∧ sep ∉ before := by
  induction cs generalizing before with
  | nil => simp [splitOnce]
  | cons c cs ih =>
    rw [splitOnce]
    by_cases hc : c = sep
    · subst hc
      rw [if_pos rfl]
      cases before with
      | nil => simp
      | cons b before =>
        refine iff_of_false (by simp) ?_
        rintro ⟨heq, hnot⟩
        obtain ⟨rfl, -⟩ := cons_eq_cons.mp heq
        exact hnot mem_cons_self
    · rw [if_neg hc]
      cases before with
      | nil => simp [hc]
      | cons b before =>
        have hcut : splitOnce sep cs = some (before, after) ↔
            cs = before ++ sep :: after ∧ sep ∉ before := ih
        simp only [Option.map_eq_some_iff, Prod.exists, Prod.mk.injEq, cons_append, cons.injEq,
          mem_cons, not_or]
        constructor
        · rintro ⟨b', a, hb', ⟨rfl, rfl⟩, rfl⟩
          obtain ⟨hcs, hnot⟩ := hcut.mp hb'
          exact ⟨⟨rfl, hcs⟩, Ne.symm hc, hnot⟩
        · rintro ⟨⟨rfl, hcs⟩, -, hnot⟩
          exact ⟨before, after, hcut.mpr ⟨hcs, hnot⟩, ⟨rfl, rfl⟩, rfl⟩

/-- What follows a text is cut off after it. -/
lemma stripStart?_eq_some_iff : stripStart? start cs = some rest ↔ cs = start ++ rest := by
  induction start generalizing cs with
  | nil => simp [stripStart?]
  | cons p ps ih =>
    cases cs with
    | nil => simp [stripStart?]
    | cons c cs =>
      rw [stripStart?, cons_append, cons_eq_cons]
      split
      case isTrue heq => exact ih.trans (and_iff_right heq.symm).symm
      case isFalse hne => exact iff_of_false nofun fun h => hne h.1.symm

/-- What precedes a text is cut off before it. -/
lemma stripEnd?_eq_some_iff : stripEnd? tail cs = some rest ↔ cs = rest ++ tail := by
  rw [stripEnd?, Option.map_eq_some_iff]
  simp only [stripStart?_eq_some_iff]
  constructor
  · rintro ⟨front, hfront, rfl⟩
    rw [← reverse_reverse cs, hfront, reverse_append, reverse_reverse]
  · rintro rfl
    exact ⟨rest.reverse, reverse_append, reverse_reverse rest⟩

end

end Beans.Text
