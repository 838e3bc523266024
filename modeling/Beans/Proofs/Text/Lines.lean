import Mathlib.Data.List.Basic
import Mathlib.Tactic.Common
import Beans.Text.Lines

/-!
# Reading lines that were joined

A text is cut at line feeds and carriage returns, but the pair of both is one terminator. So lines
can merge when they are joined and read again: an empty line that ends in a line feed, after one
that ends in a carriage return, is lost. Nothing else happens at the seam of two texts of which the
first ends in a terminator.

## Main results

* `Beans.Text.readLines_append` — where texts can be cut so that their lines are read apart.
* `Beans.Text.readLines_line` — a line with its terminator is read as that line.
* `Beans.Text.joinLines_eq_flatMap` — lines that were read are joined to what they were.
-/

set_option autoImplicit false

namespace Beans.Text

/-- Whether a character ends a line. -/
def isBreak (c : Char) : Bool := c == '\n' || c == '\r'

/-- Whether a text is on one line. -/
def SingleLine (s : String) : Prop := ∀ c ∈ s.toList, isBreak c = false

instance : DecidablePred SingleLine := fun s => List.decidableBAll _ s.toList

/-- Whether a line ends at a place: before it a line feed stands, or a carriage return that no line
feed follows. -/
def Cuts (before after : List Char) : Prop :=
  before.getLast? = some '\n' ∨ before.getLast? = some '\r' ∧ after.head? ≠ some '\n'

/-! ## Characters -/

lemma readLines_feed (held rest : List Char) :
    readLines held ('\n' :: rest) = ⟨String.ofList held.reverse, .feed⟩ :: readLines [] rest := by
  rw [readLines]

lemma readLines_returnFeed (held rest : List Char) :
    readLines held ('\r' :: '\n' :: rest) =
      ⟨String.ofList held.reverse, .returnFeed⟩ :: readLines [] rest := by
  rw [readLines]

lemma readLines_carriage (held : List Char) {rest : List Char} (h : rest.head? ≠ some '\n') :
    readLines held ('\r' :: rest) =
      ⟨String.ofList held.reverse, .carriage⟩ :: readLines [] rest := by
  rw [readLines]
  rintro r rfl
  exact h rfl

lemma readLines_char (held : List Char) {c : Char} (rest : List Char) (h : isBreak c = false) :
    readLines held (c :: rest) = readLines (c :: held) rest := by
  obtain ⟨hfeed, hcarriage⟩ : c ≠ '\n' ∧ c ≠ '\r' := by simpa [isBreak] using h
  rw [readLines]
  · rintro r rfl
    exact absurd rfl hcarriage
  · exact hcarriage
  · exact hfeed

/-- A stretch of a line is held back. -/
lemma readLines_held (held : List Char) {cs : List Char} (rest : List Char)
    (h : ∀ c ∈ cs, isBreak c = false) :
    readLines held (cs ++ rest) = readLines (cs.reverse ++ held) rest := by
  induction cs generalizing held with
  | nil => rfl
  | cons c cs ih =>
    obtain ⟨hc, hcs⟩ := List.forall_mem_cons.mp h
    rw [List.cons_append, readLines_char held _ hc, ih _ hcs, List.reverse_cons, List.append_assoc,
      List.singleton_append]

/-! ## Seams -/

lemma Cuts.of_cons {c d : Char} {cs ds : List Char} (h : Cuts (c :: d :: cs) ds) :
    Cuts (d :: cs) ds := by
  simpa [Cuts, List.getLast?_cons_cons] using h

lemma Cuts.append {bs cs ds : List Char} (h : Cuts cs ds) : Cuts (bs ++ cs) ds := by
  rcases h with h | ⟨h, hds⟩
  · exact .inl (by rw [List.getLast?_append, h]; rfl)
  · exact .inr ⟨by rw [List.getLast?_append, h]; rfl, hds⟩

/-- The lines of two texts are read apart if the first ends where a line does.

**Proof sketch.** The induction follows the reader. Only a carriage return looks at the character
behind it; at the end of the first text, no line feed follows it. -/
theorem readLines_append {held cs ds : List Char} (h : Cuts cs ds) :
    readLines held (cs ++ ds) = readLines held cs ++ readLines [] ds := by
  fun_induction readLines held cs with
  | case1 => simp [Cuts] at h
  | case2 => simp [Cuts] at h
  | case3 held rest ih =>
    rw [List.cons_append, List.cons_append, readLines_returnFeed]
    cases rest with
    | nil => simp [readLines]
    | cons c rest => rw [ih h.of_cons.of_cons, List.cons_append]
  | case4 held rest hne ih =>
    cases rest with
    | nil =>
      have hds : ds.head? ≠ some '\n' := by simpa [Cuts] using h
      rw [List.singleton_append, readLines_carriage held hds]
      simp [readLines]
    | cons c rest =>
      have hc : c ≠ '\n' := fun heq => hne rest (heq ▸ rfl)
      rw [List.cons_append, readLines_carriage held (by simpa using hc), ih h.of_cons,
        List.cons_append]
  | case5 held rest ih =>
    rw [List.cons_append, readLines_feed]
    cases rest with
    | nil => simp [readLines]
    | cons c rest => rw [ih h.of_cons, List.cons_append]
  | case6 held c rest h1 h2 h3 ih =>
    have hc : isBreak c = false := by simpa [isBreak] using ⟨h3, h2⟩
    rw [List.cons_append, readLines_char held _ hc]
    cases rest with
    | nil =>
      obtain h | h := h
      · exact absurd (by simpa using h) h3
      · exact absurd (by simpa using h.1) h2
    | cons d rest => exact ih h.of_cons

/-- A line with its terminator is read as that line, unless its carriage return belongs to a line
feed after it. -/
theorem readLines_line {t : String} (ht : SingleLine t) {e : Ending} (he : e ≠ .none)
    {rest : List Char} (hrest : e = .carriage → rest.head? ≠ some '\n') :
    readLines [] (t.toList ++ (e.chars ++ rest)) = ⟨t, e⟩ :: readLines [] rest := by
  rw [readLines_held [] _ ht, List.append_nil]
  have htext : String.ofList t.toList.reverse.reverse = t := by
    rw [List.reverse_reverse, String.ofList_toList]
  cases e with
  | none => exact absurd rfl he
  | feed =>
    change readLines _ ('\n' :: rest) = _
    rw [readLines_feed, htext]
  | returnFeed =>
    change readLines _ ('\r' :: '\n' :: rest) = _
    rw [readLines_returnFeed, htext]
  | carriage =>
    change readLines _ ('\r' :: rest) = _
    rw [readLines_carriage _ (hrest rfl), htext]

/-- A text starts with a line that is not empty, if it starts with its characters and these are all
or a terminator follows. -/
lemma readLines_first {t : String} (ht : SingleLine t) (hne : t.toList ≠ []) {rest : List Char}
    (hrest : ∀ c ∈ rest.head?, isBreak c = true) :
    ∃ e others, readLines [] (t.toList ++ rest) = ⟨t, e⟩ :: others := by
  have htext : String.ofList t.toList.reverse.reverse = t := by
    rw [List.reverse_reverse, String.ofList_toList]
  rw [readLines_held [] _ ht, List.append_nil]
  cases rest with
  | nil =>
    cases hheld : t.toList.reverse with
    | nil => exact absurd (List.reverse_eq_nil_iff.mp hheld) hne
    | cons c cs => exact ⟨.none, [], by rw [readLines, ← hheld, htext]⟩
  | cons c rest =>
    have hc : c = '\n' ∨ c = '\r' := by simpa [isBreak] using hrest c rfl
    rcases hc with rfl | rfl
    · exact ⟨.feed, _, by rw [readLines_feed, htext]⟩
    · by_cases hfeed : rest.head? = some '\n'
      · obtain ⟨others, rfl⟩ : ∃ others, rest = '\n' :: others := by
          cases rest with
          | nil => cases hfeed
          | cons d others => exact ⟨others, by simpa using hfeed⟩
        exact ⟨.returnFeed, _, by rw [readLines_returnFeed, htext]⟩
      · exact ⟨.carriage, _, by rw [readLines_carriage _ hfeed, htext]⟩

/-- Of the lines of a text, only the last can be without a terminator. -/
theorem ending_ne_none_of_mem_dropLast (held cs : List Char) :
    ∀ l ∈ (readLines held cs).dropLast, l.ending ≠ .none := by
  have hcons (l : Line) (rest : List Char) (hl : l.ending ≠ .none)
      (ih : ∀ m ∈ (readLines [] rest).dropLast, m.ending ≠ .none) :
      ∀ m ∈ (l :: readLines [] rest).dropLast, m.ending ≠ .none := by
    cases hread : readLines [] rest with
    | nil => simp
    | cons m ms =>
      rw [List.dropLast_cons_cons, ← hread]
      exact List.forall_mem_cons.mpr ⟨hl, ih⟩
  fun_induction readLines held cs with
  | case1 => simp
  | case2 => simp
  | case3 _ rest ih => exact hcons _ rest (by simp) ih
  | case4 _ rest _ ih => exact hcons _ rest (by simp) ih
  | case5 _ rest ih => exact hcons _ rest (by simp) ih
  | case6 _ _ _ _ _ _ ih => exact ih

/-- What is read as a line is on one line, and it is not empty if it has no terminator. -/
theorem singleLine_of_mem_readLines {held : List Char} (cs : List Char)
    (hheld : ∀ c ∈ held, isBreak c = false) :
    ∀ l ∈ readLines held cs, SingleLine l.text ∧ (l.ending = .none → l.text.toList ≠ []) := by
  have hsingle (held : List Char) (hheld : ∀ c ∈ held, isBreak c = false) :
      SingleLine (String.ofList held.reverse) := by simpa [SingleLine] using hheld
  fun_induction readLines held cs with
  | case1 => exact List.forall_mem_nil _
  | case2 c held => exact List.forall_mem_singleton.mpr ⟨hsingle _ hheld, by simp⟩
  | case3 held rest ih =>
    exact List.forall_mem_cons.mpr ⟨⟨hsingle held hheld, by simp⟩, ih (List.forall_mem_nil _)⟩
  | case4 held rest _ ih =>
    exact List.forall_mem_cons.mpr ⟨⟨hsingle held hheld, by simp⟩, ih (List.forall_mem_nil _)⟩
  | case5 held rest ih =>
    exact List.forall_mem_cons.mpr ⟨⟨hsingle held hheld, by simp⟩, ih (List.forall_mem_nil _)⟩
  | case6 held c rest _ hcarriage hfeed ih =>
    have hc : isBreak c = false := by simpa [isBreak] using ⟨hfeed, hcarriage⟩
    exact ih (List.forall_mem_cons.mpr ⟨hc, hheld⟩)

/-! ## Joined lines -/

section

variable (eol : Ending) (terminated : Bool)

/-- The characters of a line that is not the last. -/
def Line.ended (l : Line) : List Char :=
  l.text.toList ++ if l.ending = .none then eol.chars else l.ending.chars

/-- All lines but the last are ended. -/
lemma joinLines_append (ls : List Line) {ms : List Line} (hms : ms ≠ []) :
    joinLines eol terminated (ls ++ ms) =
      ls.flatMap (Line.ended eol) ++ joinLines eol terminated ms := by
  induction ls with
  | nil => rfl
  | cons l ls ih =>
    cases hrest : ls ++ ms with
    | nil => exact absurd (List.append_eq_nil_iff.mp hrest).2 hms
    | cons m rest =>
      rw [List.cons_append, hrest, joinLines, ← hrest, ih, List.flatMap_cons, Line.ended,
        List.append_assoc]
      · simp
      · simp

/-- Ended lines that have terminators of their own are as they were. -/
lemma flatMap_ended {ls : List Line} (h : ∀ l ∈ ls, l.ending ≠ .none) :
    ls.flatMap (Line.ended eol) = ls.flatMap Line.chars :=
  List.flatMap_congr fun l hl => by rw [Line.ended, if_neg (h l hl), Line.chars]

/-- Lines of which only the last can be without a terminator are joined to what they were. -/
theorem joinLines_eq_flatMap {ls : List Line} (h : ∀ l ∈ ls.dropLast, l.ending ≠ .none) :
    joinLines eol (ls.getLast?.any fun l => decide (l.ending ≠ .none)) ls =
      ls.flatMap Line.chars := by
  rcases List.eq_nil_or_concat ls with rfl | ⟨init, l, rfl⟩
  · rfl
  · rw [List.concat_eq_append, List.dropLast_concat] at h
    rw [List.concat_eq_append, joinLines_append eol _ _ (List.cons_ne_nil l []),
      flatMap_ended eol h, List.flatMap_append, List.flatMap_singleton, List.getLast?_concat]
    cases hl : l.ending <;> simp [joinLines, Line.chars, hl, Ending.chars]

variable {eol} (heol : eol ≠ .none)

include heol

/-- Ended lines are not empty. -/
lemma length_ended_pos (l : Line) : 0 < (l.ended eol).length := by
  have hchars {e : Ending} (he : e ≠ .none) : 0 < e.chars.length := by
    cases e with
    | none => exact absurd rfl he
    | feed | returnFeed | carriage => decide
  rw [Line.ended, List.length_append]
  split
  · exact Nat.add_pos_right _ (hchars heol)
  · exact Nat.add_pos_right _ (hchars ‹_›)

/-- Joined lines have a terminator each, the last one apart. -/
lemma length_le_joinLines (ls : List Line) :
    ls.length ≤ (joinLines eol terminated ls).length + 1 := by
  induction ls with
  | nil => simp
  | cons l ls ih =>
    by_cases hnil : ls = []
    · simp [hnil]
    · rw [← List.singleton_append, joinLines_append eol terminated [l] hnil, List.flatMap_singleton,
        List.length_append, List.length_append, List.length_singleton]
      have hl := length_ended_pos heol l
      omega

/-- Ended lines end where a line does. -/
lemma cuts_ended (l : Line) {cs : List Char} (hcs : cs.head? ≠ some '\n') :
    Cuts (l.ended eol) cs := by
  unfold Line.ended
  split
  · cases eol <;> simp_all [Cuts, Ending.chars]
  · cases hl : l.ending <;> simp_all [Cuts, Ending.chars]

/-- Lines before a text that does not start with a line feed are read apart from it. -/
lemma readLines_joined (ls : List Line) {ms : List Line} (hms : ms ≠ [])
    (hhead : (joinLines eol terminated ms).head? ≠ some '\n') :
    ∃ before, readLines [] (joinLines eol terminated (ls ++ ms)) =
      before ++ readLines [] (joinLines eol terminated ms) := by
  rw [joinLines_append eol terminated ls hms]
  rcases List.eq_nil_or_concat ls with rfl | ⟨init, l, rfl⟩
  · exact ⟨[], rfl⟩
  · have hcuts : Cuts ((init.concat l).flatMap (Line.ended eol)) (joinLines eol terminated ms) := by
      rw [List.concat_eq_append, List.flatMap_append, List.flatMap_singleton]
      exact (cuts_ended heol l hhead).append
    exact ⟨_, readLines_append hcuts⟩

/-- Lines on one line each that have no terminators of their own are read again as they are. -/
lemma readLines_bare {texts : List String} (htexts : ∀ t ∈ texts, SingleLine t) {ms : List Line}
    (hms : ms ≠ []) (hhead : (joinLines eol terminated ms).head? ≠ some '\n') :
    readLines [] (joinLines eol terminated (texts.map (⟨·, .none⟩) ++ ms)) =
      texts.map (⟨·, eol⟩) ++ readLines [] (joinLines eol terminated ms) := by
  rw [joinLines_append eol terminated _ hms]
  induction texts with
  | nil => rfl
  | cons t texts ih =>
    obtain ⟨ht, htexts⟩ := List.forall_mem_cons.mp htexts
    have hnext : eol = .carriage → ((texts.map (⟨·, .none⟩)).flatMap (Line.ended eol) ++
        joinLines eol terminated ms).head? ≠ some '\n' := by
      rintro rfl
      cases texts with
      | nil => exact hhead
      | cons u texts =>
        obtain ⟨hu, -⟩ := List.forall_mem_cons.mp htexts
        rw [List.map_cons, List.flatMap_cons, Line.ended, if_pos rfl]
        cases hchars : u.toList with
        | nil => simp [Ending.chars]
        | cons c cs =>
          have hc := hu c (hchars ▸ List.mem_cons_self)
          simp [isBreak] at hc
          simpa using hc.1
    rw [List.map_cons, List.flatMap_cons, Line.ended, if_pos rfl, List.append_assoc,
      List.append_assoc, readLines_line ht heol hnext, ih htexts]
    rfl

end

end Beans.Text
