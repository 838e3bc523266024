import Mathlib.Tactic.Common
import Beans.Proofs.Text.Lines

/-!
# Texts made from other texts

When a text is made from another one, each of its lines is a line of the old text or is put in. A
line of the old text keeps its terminator. A line without one takes the terminator for new lines,
unless it is the last: whether the new text ends with a terminator depends on the old text alone.

## Main definitions

* `Beans.Text.Strand` — a line with what it comes from.
* `Beans.Text.weave` — the text of some strands.
* `Beans.Text.endsLine` — whether a text ends with a terminator.

## Main results

* `Beans.Text.joinLines_map_line` — the text of strands is that of their lines.
* `Beans.Text.authorText_sublist` — the old lines are in the text as they were, in their order.
* `Beans.Text.endsLine_joinLines_of_closes` — when a new text ends as the old one does.
-/

set_option autoImplicit false

namespace Beans.Text

/-! ## Strands -/

/-- A line of a text that is made from another text. -/
inductive Strand where
  /-- A line of the old text. -/
  | author (line : Line)
  /-- A line that is put in. -/
  | added (text : String)

namespace Strand

/-- The line of a strand; one that is put in has no terminator of its own. -/
def line : Strand → Line
  | author l => l
  | added t => ⟨t, .none⟩

/-- The line of the old text that a strand is, if it is one. -/
def author? : Strand → Option Line
  | author l => some l
  | added _ => none

/-- The characters of a strand that others follow. A terminator is added where there is none. -/
def ended (eol : Ending) : Strand → List Char
  | author l => l.chars ++ if l.ending = .none then eol.chars else []
  | added t => t.toList ++ eol.chars

/-- The characters of the last strand. Nothing is added to a line of the old text. -/
def last (eol : Ending) (terminated : Bool) : Strand → List Char
  | author l => l.chars
  | added t => t.toList ++ if terminated then eol.chars else []

end Strand

/-- The text of some strands, which is to be `terminated` or not. -/
def weave (eol : Ending) (terminated : Bool) : List Strand → List Char
  | [] => []
  | [strand] => strand.last eol terminated
  | strand :: rest => strand.ended eol ++ weave eol terminated rest

section

variable {eol : Ending} {terminated : Bool}

lemma weave_cons (strand : Strand) {strands : List Strand} (h : strands ≠ []) :
    weave eol terminated (strand :: strands) =
      strand.ended eol ++ weave eol terminated strands := by
  cases strands with
  | nil => exact absurd rfl h
  | cons => rfl

lemma Strand.ended_line (strand : Strand) : strand.line.ended eol = strand.ended eol := by
  cases strand with
  | author l => by_cases hl : l.ending = .none <;> simp [line, ended, Line.ended, Line.chars, hl,
      Ending.chars]
  | added t => simp [line, ended, Line.ended]

/-- **Strands and their lines.** The text of some strands is that of their lines, if all lines of
the old text have terminators where the text is to be terminated. -/
theorem joinLines_map_line {strands : List Strand}
    (h : terminated = true → ∀ l, .author l ∈ strands → l.ending ≠ .none) :
    joinLines eol terminated (strands.map Strand.line) = weave eol terminated strands := by
  induction strands with
  | nil => rfl
  | cons strand strands ih =>
    have hrest : terminated = true → ∀ l, .author l ∈ strands → l.ending ≠ .none :=
      fun ht l hl => h ht l (List.mem_cons_of_mem _ hl)
    by_cases hnil : strands = []
    · subst hnil
      cases strand with
      | added t => simp [weave, joinLines, Strand.line, Strand.last]
      | author l =>
        by_cases hl : l.ending = .none
        · have hopen : terminated = false :=
            Bool.eq_false_iff.mpr fun ht => h ht l List.mem_cons_self hl
          simp [weave, joinLines, Strand.line, Strand.last, Line.chars, hl, hopen, Ending.chars]
        · simp [weave, joinLines, Strand.line, Strand.last, Line.chars, hl]
    · have hmap : strands.map Strand.line ≠ [] := by simpa using hnil
      rw [weave_cons strand hnil, ← ih hrest, List.map_cons, ← List.singleton_append,
        joinLines_append eol terminated [strand.line] hmap, List.flatMap_singleton,
        strand.ended_line]

/-- **Nothing is lost.** The lines of the old text among some strands are in the text of the strands
with their terminators, in their order. -/
theorem authorText_sublist (strands : List Strand) :
    ((strands.filterMap Strand.author?).flatMap Line.chars).Sublist
      (weave eol terminated strands) := by
  induction strands with
  | nil => exact List.Sublist.refl []
  | cons strand strands ih =>
    by_cases hnil : strands = []
    · subst hnil
      cases strand with
      | author l => simp [Strand.author?, weave, Strand.last]
      | added t => exact List.nil_sublist _
    · rw [weave_cons strand hnil]
      cases strand with
      | author l =>
        have hl : l.chars.Sublist (Strand.ended eol (.author l)) := List.sublist_append_left _ _
        exact hl.append ih
      | added t => exact ih.trans (List.sublist_append_right _ _)

end

/-! ## Ends of texts -/

/-- Whether a text ends with a terminator of a line. -/
def endsLine (cs : List Char) : Bool := cs.getLast?.any isBreak

lemma endsLine_append_chars {e : Ending} (he : e ≠ .none) (cs : List Char) :
    endsLine (cs ++ e.chars) = true := by
  obtain ⟨before, c, hchars, hc⟩ : ∃ before c, e.chars = before ++ [c] ∧ isBreak c = true := by
    cases e with
    | none => exact absurd rfl he
    | feed => exact ⟨[], '\n', rfl, rfl⟩
    | returnFeed => exact ⟨['\r'], '\n', rfl, rfl⟩
    | carriage => exact ⟨[], '\r', rfl, rfl⟩
  rw [endsLine, hchars, ← List.append_assoc, List.getLast?_concat]
  exact hc

/-- The text of a line ends with no terminator, and there is some text. -/
def OpenEnded (t : String) : Prop := t.toList ≠ [] ∧ endsLine t.toList = false

lemma endsLine_append_openEnded {t : String} (ht : OpenEnded t) (cs : List Char) :
    endsLine (cs ++ t.toList) = false := by
  obtain ⟨before, c, hchars⟩ := List.eq_nil_or_concat t.toList |>.resolve_left ht.1
  obtain ⟨-, hopen⟩ := ht
  rw [List.concat_eq_append] at hchars
  rw [endsLine, hchars, List.getLast?_concat] at hopen
  rw [endsLine, hchars, ← List.append_assoc, List.getLast?_concat]
  exact hopen

/-- The last of some lines is that of `lines`, or it is put in and no terminator is in its place. -/
def Closes (lines ls : List Line) : Prop :=
  (∃ l, lines.getLast? = some l ∧ ls.getLast? = some l) ∨
    ∃ t, ls.getLast? = some ⟨t, .none⟩ ∧ OpenEnded t

section

variable {eol : Ending} (heol : eol ≠ .none)

include heol

/-- Joined lines end with a terminator if the last one has its own or they are to be terminated. -/
lemma endsLine_joinLines {ls : List Line} {l : Line} (terminated : Bool)
    (hlast : ls.getLast? = some l) (htext : l.ending = .none → OpenEnded l.text) :
    endsLine (joinLines eol terminated ls) = (decide (l.ending ≠ .none) || terminated) := by
  obtain ⟨init, rfl⟩ := List.getLast?_eq_some_iff.mp hlast
  rw [joinLines_append eol terminated init (List.cons_ne_nil l []), joinLines, ← List.append_assoc]
  by_cases hl : l.ending = .none
  · rw [if_pos hl]
    cases terminated with
    | true =>
      rw [if_pos rfl, endsLine_append_chars heol, Bool.or_true]
    | false =>
      rw [if_neg Bool.false_ne_true, List.append_nil, endsLine_append_openEnded (htext hl)]
      simp [hl]
  · rw [if_neg hl, endsLine_append_chars hl]
    simp [hl]

end

section

variable {text : String}

lemma openEnded_of_mem_splitLines {l : Line} (h : l ∈ splitLines text) (hl : l.ending = .none) :
    OpenEnded l.text := by
  obtain ⟨hsingle, hne⟩ := singleLine_of_mem_readLines _ (List.forall_mem_nil _) l h
  refine ⟨hne hl, ?_⟩
  cases hlast : l.text.toList.getLast? with
  | none => rw [endsLine, hlast, Option.any_none]
  | some c => rw [endsLine, hlast, Option.any_some, hsingle c (List.mem_of_getLast? hlast)]

/-- The last line of a text has a terminator if the text ends with one. -/
lemma any_getLast?_splitLines (text : String) :
    ((splitLines text).getLast?.any fun l => decide (l.ending ≠ .none)) = endsLine text.toList := by
  have hjoin : joinLines .feed ((splitLines text).getLast?.any fun l => decide (l.ending ≠ .none))
      (splitLines text) = text.toList :=
    (joinLines_eq_flatMap .feed (ending_ne_none_of_mem_dropLast [] text.toList)).trans
      (Line.flatten_splitLines text)
  cases hlast : (splitLines text).getLast? with
  | none =>
    rw [List.getLast?_eq_none_iff.mp hlast] at hjoin
    rw [← hjoin]
    rfl
  | some l =>
    rw [← hjoin, endsLine_joinLines (by decide) _ hlast
      (openEnded_of_mem_splitLines (List.mem_of_getLast? hlast)), hlast, Option.any_some,
      Bool.or_self]

/-- All lines of a text that ends with a terminator have terminators. -/
lemma ending_ne_none_of_endsLine {l : Line} (hl : l ∈ splitLines text)
    (h : endsLine text.toList = true) : l.ending ≠ .none := by
  rw [← any_getLast?_splitLines] at h
  have hbefore := ending_ne_none_of_mem_dropLast [] text.toList
  obtain hnil | ⟨init, last, hlines⟩ := List.eq_nil_or_concat (splitLines text)
  · rw [hnil] at hl
    cases hl
  · rw [List.concat_eq_append] at hlines
    change ∀ l ∈ (splitLines text).dropLast, l.ending ≠ .none at hbefore
    rw [hlines, List.dropLast_concat] at hbefore
    rw [hlines, List.getLast?_concat, Option.any_some, decide_eq_true_iff] at h
    rw [hlines, List.mem_append, List.mem_singleton] at hl
    rcases hl with hl | rfl
    · exact hbefore l hl
    · exact h

/-- **A new text ends as the old one does**, if its last line is that of the old text, or one that
is put in and has no terminator in it. -/
theorem endsLine_joinLines_of_closes {eol : Ending} (heol : eol ≠ .none) {ls : List Line}
    (h : Closes (splitLines text) ls) :
    endsLine (joinLines eol (endsLine text.toList) ls) = endsLine text.toList := by
  rcases h with ⟨l, hl, hlast⟩ | ⟨t, hlast, ht⟩
  · rw [endsLine_joinLines heol _ hlast (openEnded_of_mem_splitLines (List.mem_of_getLast? hl)),
      ← any_getLast?_splitLines, hl, Option.any_some, Bool.or_self]
  · rw [endsLine_joinLines heol _ hlast fun _ => ht]
    rfl

end

end Beans.Text
