import Beans.Proofs.Region.Again
import Beans.Proofs.Syntax.Endings

/-!
# The line on which a bean ends

A text is read with line feeds between its lines, whatever terminators it has. So a line that is
counted while the text is read is one of its lines. In particular the struct of a bean ends on a
line of the text, and that line holds the character that ends it.

## Main results

* `Beans.exists_structEnd` — the line on which a bean ends.
-/

set_option autoImplicit false

namespace Beans

open Syntax Text

/-- A character that ends no line stands in the first of some lines, or after the line feed that
follows it. -/
lemma cut_plainText {t : String} {texts : List String} {c : Char} (hc : c ≠ '\n')
    {first rest : List Char} (h : first ++ c :: rest = (plainText (t :: texts)).toList) :
    (∃ inner, t.toList = first ++ c :: inner) ∨ ∃ others,
      first = t.toList ++ '\n' :: others ∧ others ++ c :: rest = (plainText texts).toList := by
  cases texts with
  | nil => exact .inl ⟨rest, h.symm⟩
  | cons u texts =>
    have htext : (plainText (t :: u :: texts)).toList =
        t.toList ++ '\n' :: (plainText (u :: texts)).toList := by simp [plainText, joinWith]
    rw [htext, List.append_eq_append_iff] at h
    rcases h with ⟨inner, hinner, hrest⟩ | ⟨inner, hinner, hrest⟩
    · cases inner with
      | nil => exact absurd (List.cons.inj hrest).1 hc
      | cons d inner =>
        obtain ⟨rfl, -⟩ := List.cons.inj hrest
        exact .inl ⟨inner, hinner⟩
    · cases inner with
      | nil => exact absurd (List.cons.inj hrest).1.symm hc
      | cons d inner =>
        obtain ⟨rfl, hothers⟩ := List.cons.inj hrest
        exact .inr ⟨inner, hinner, hothers.symm⟩

/-- A character that ends no line stands in one of the lines of a text. -/
lemma exists_line_of_standsOn {texts : List String} (htexts : ∀ t ∈ texts, SingleLine t) {c : Char}
    (hc : c ≠ '\n') {line : Nat} (h : StandsOn (plainText texts).toList c line) :
    ∃ before t after, texts = before ++ t :: after ∧ before.length + 1 = line ∧ c ∈ t.toList := by
  obtain ⟨rest, first, hchars, rfl⟩ := h
  have hcount {t : String} (ht : SingleLine t) : t.toList.count '\n' = 0 :=
    List.count_eq_zero.mpr fun hmem => absurd (ht _ hmem) (by decide)
  induction texts generalizing first with
  | nil => simp [plainText, joinWith] at hchars
  | cons t texts ih =>
    obtain ⟨ht, htexts⟩ := List.forall_mem_cons.mp htexts
    obtain ⟨inner, hinner⟩ | ⟨others, rfl, hothers⟩ := cut_plainText hc hchars
    · refine ⟨[], t, texts, rfl, ?_, by simp [hinner]⟩
      have hfirst := hcount ht
      rw [hinner, List.count_append] at hfirst
      rw [List.length_nil]
      omega
    · obtain ⟨before, u, after, rfl, hlength, hmem⟩ := ih htexts others hothers
      refine ⟨t :: before, u, after, rfl, ?_, hmem⟩
      rw [List.length_cons, List.count_append, hcount ht, List.count_cons_self]
      omega

/-- A struct that is a bean ends on the line that is given for it. -/
lemma findBean_spec {file : SourceFile} {bean : Declaration} (h : findBean file = some bean) :
    Item.declaration bean ∈ file ∧ ∃ c, c ≠ '\n' ∧ bean.ending? = some (c, structEnd bean) := by
  obtain ⟨item, hitem, hfound⟩ := List.exists_of_findSome?_eq_some h
  split at hfound
  · rename_i d
    split at hfound
    · rename_i fields hdata
      split at hfound
      · cases hfound
        refine ⟨hitem, ?_⟩
        unfold Declaration.ending? structEnd
        rw [hdata]
        cases fields with
        | named list closing => exact ⟨'}', by decide, rfl⟩
        | unnamed | unit => exact ⟨';', by decide, rfl⟩
      · cases hfound
    · cases hfound
  · cases hfound

/-- The line that a bean ends on is one of the lines of the text, and holds the character that ends
it. -/
theorem exists_structEnd {s : Settings} {text : String} {r : SourceReading}
    (h : SourceReading.ofLines s ((splitLines text).map Line.text) = .ok (some r)) :
    ∃ before l after c, splitLines text = before ++ l :: after ∧
      before.length + 1 = structEnd r.bean ∧ r.bean.ending? = some (c, structEnd r.bean) ∧
      c ∈ l.text.toList := by
  obtain ⟨hfile, hbean, -⟩ := SourceReading.of_ofLines h
  obtain ⟨hitem, c, hc, hending⟩ := findBean_spec hbean
  have hsingle : ∀ t ∈ (splitLines text).map Line.text, SingleLine t := by
    rw [List.forall_mem_map]
    exact fun l hl => (singleLine_of_mem_readLines _ (List.forall_mem_nil _) l hl).1
  obtain ⟨before, t, after, htexts, hlength, hmem⟩ :=
    exists_line_of_standsOn hsingle hc (stands_of_readSource? hfile _ hitem _ hending)
  obtain ⟨first, rest, hlines, rfl, hrest⟩ := List.map_eq_append_iff.mp htexts
  obtain ⟨l, last, rfl, rfl, -⟩ := List.map_eq_cons_iff.mp hrest
  exact ⟨first, l, last, c, hlines, by simpa using hlength, hending, hmem⟩

end Beans
