import Mathlib.Tactic.Common
import Beans.Proofs.Result
import Beans.Proofs.Text.Blank
import Beans.Types.Parse

/-!
# Names of types

A name is one identifier or several that are joined by two colons. The reader of names takes names and
nothing else, and it takes as many characters as belong to the name.

## Main definitions

* `Beans.IsIdentifier`, `Beans.IsName` — identifiers, and names made of them.
* `Beans.EndsName` — characters that cannot continue a name.

## Main results

* `Beans.readName_append` — a name is read up to characters that cannot continue it.
* `Beans.isName_of_readName` — what is read is a name.
-/

set_option autoImplicit false

namespace Beans

open Text

/-! ## Characters of names -/

/-- No blank character begins an identifier. -/
lemma not_isBlank_of_startsName {c : Char} (h : startsName c = true) : isBlank c = false := by
  refine eq_false_of_ne_true fun hblank => ?_
  have hletter : isAlphabetic c = false :=
    eq_false_of_inRanges Char.isAlpha (by decide +kernel) (by decide +kernel)
      (inRanges_blankRanges hblank)
  rw [startsName, hletter, Bool.false_or, beq_iff_eq] at h
  subst h
  cases hblank

/-- What begins an identifier can continue one. -/
lemma continuesName_of_startsName {c : Char} (h : startsName c = true) :
    continuesName c = true := by
  simp only [startsName, continuesName, isAlphanumeric, Bool.or_eq_true] at h ⊢
  tauto

lemma not_continuesName_colon : continuesName ':' = false := by decide +kernel

/-- The brackets and commas of types neither continue a name nor are they blank. -/
lemma delimiters :
    ∀ d ∈ ['<', '>', '[', ']', ','], continuesName d = false ∧ d ≠ ':' ∧ isBlank d = false := by
  -- one character after the other, not by way of all characters there are
  simp only [List.forall_mem_cons, List.not_mem_nil, false_imp_iff, implies_true, and_true]
  decide +kernel

/-! ## Names -/

/-- Characters that are an identifier. -/
def IsIdentifier (cs : List Char) : Prop :=
  ∃ c rest, cs = c :: rest ∧ startsName c = true ∧ ∀ d ∈ rest, continuesName d = true

/-- Characters that are identifiers joined by two colons. -/
inductive IsName : List Char → Prop
  | ident {cs : List Char} (h : IsIdentifier cs) : IsName cs
  | qualified {cs rest : List Char} (h : IsIdentifier cs) (hrest : IsName rest) :
      IsName (cs ++ ':' :: ':' :: rest)

/-- Characters that cannot continue a name. -/
def EndsName (cs : List Char) : Prop := ∀ d ∈ cs.head?, continuesName d = false ∧ d ≠ ':'

/-- An identifier goes on with what can continue it. -/
lemma IsIdentifier.snoc {cs : List Char} (h : IsIdentifier cs) {d : Char}
    (hd : continuesName d = true) : IsIdentifier (cs ++ [d]) := by
  obtain ⟨c, rest, rfl, hc, hrest⟩ := h
  refine ⟨c, rest ++ [d], rfl, hc, fun e he => ?_⟩
  rcases List.mem_append.mp he with he | he
  · exact hrest e he
  · rwa [List.mem_singleton.mp he]

/-- A character of a name continues an identifier, or is a colon. -/
lemma IsName.continues {cs : List Char} (h : IsName cs) :
    ∀ d ∈ cs, continuesName d = true ∨ d = ':' := by
  have hident {cs : List Char} (h : IsIdentifier cs) : ∀ d ∈ cs, continuesName d = true := by
    obtain ⟨c, rest, rfl, hc, hrest⟩ := h
    exact List.forall_mem_cons.mpr ⟨continuesName_of_startsName hc, hrest⟩
  induction h with
  | ident h => exact fun d hd => .inl (hident h d hd)
  | qualified h _ ih =>
    intro d hd
    simp only [List.mem_append, List.mem_cons] at hd
    rcases hd with hd | rfl | rfl | hd
    · exact .inl (hident h d hd)
    · exact .inr rfl
    · exact .inr rfl
    · exact ih d hd

/-- A name begins as an identifier does. -/
lemma IsName.exists_head {cs : List Char} (h : IsName cs) :
    ∃ c rest, cs = c :: rest ∧ startsName c = true := by
  cases h with
  | ident h =>
    obtain ⟨c, rest, rfl, hc, -⟩ := h
    exact ⟨c, rest, rfl, hc⟩
  | qualified h _ =>
    obtain ⟨c, rest, rfl, hc, -⟩ := h
    exact ⟨c, _, rfl, hc⟩

/-! ## Reading names -/

section

variable {c : Char} {cs name rest : List Char}

lemma readNameRest_continue (h : continuesName c = true) :
    readNameRest (c :: cs) = (readNameRest cs).map fun r => (c :: r.1, r.2) := by
  have hc : c ≠ ':' := by
    rintro rfl
    rw [not_continuesName_colon] at h
    cases h
  rw [readNameRest.eq_def]
  split
  · next heq => exact absurd (List.cons.inj heq).1 hc
  · next heq => exact absurd (List.cons.inj heq).1 hc
  · next heq =>
    obtain ⟨rfl, rfl⟩ := List.cons.inj heq
    rw [if_pos h]
    cases readNameRest cs <;> rfl
  · next heq => cases heq

lemma readNameRest_colons (h : startsName c = true) :
    readNameRest (':' :: ':' :: c :: cs) =
      (readNameRest cs).map fun r => (':' :: ':' :: c :: r.1, r.2) := by
  rw [readNameRest, if_pos h]
  cases readNameRest cs <;> rfl

/-- Nothing is read that cannot continue a name. -/
lemma readNameRest_end (h : EndsName rest) : readNameRest rest = .ok ([], rest) := by
  cases rest with
  | nil => rfl
  | cons d rest =>
    obtain ⟨hd, hcolon⟩ := h d rfl
    rw [readNameRest.eq_def]
    split
    · next heq => exact absurd (List.cons.inj heq).1 hcolon
    · next heq => exact absurd (List.cons.inj heq).1 hcolon
    · next heq =>
      obtain ⟨rfl, rfl⟩ := List.cons.inj heq
      rw [if_neg (by simp [hd])]
      rfl
    · next heq => cases heq

/-- Characters that continue an identifier are read, and what comes after them. -/
lemma readNameRest_append (h : ∀ d ∈ cs, continuesName d = true) :
    readNameRest (cs ++ rest) = (readNameRest rest).map fun r => (cs ++ r.1, r.2) := by
  induction cs with
  | nil =>
    rw [List.nil_append]
    cases readNameRest rest <;> rfl
  | cons c cs ih =>
    obtain ⟨hc, hcs⟩ := List.forall_mem_cons.mp h
    rw [List.cons_append, readNameRest_continue hc, ih hcs]
    cases readNameRest rest <;> rfl

/-- The rest of a name is read after its first character. -/
lemma readNameRest_of_isName (h : IsName (c :: name)) (hrest : EndsName rest) :
    readNameRest (name ++ rest) = .ok (name, rest) := by
  generalize hcs : c :: name = cs at h
  induction h generalizing c name with
  | ident h =>
    obtain ⟨d, ds, rfl, -, hds⟩ := h
    obtain ⟨rfl, rfl⟩ := List.cons.inj hcs
    rw [readNameRest_append hds, readNameRest_end hrest]
    simp [Except.map]
  | qualified h hname ih =>
    obtain ⟨d, ds, rfl, -, hds⟩ := h
    obtain ⟨e, es, rfl, he⟩ := hname.exists_head
    rw [List.cons_append] at hcs
    obtain ⟨rfl, rfl⟩ := List.cons.inj hcs
    have hes := ih rfl
    rw [List.append_assoc, readNameRest_append hds]
    simp only [List.cons_append]
    rw [readNameRest_colons he, hes]
    rfl

/-- **A name is read up to characters that cannot continue it.** -/
theorem readName_append (h : IsName name) (hrest : EndsName rest) :
    readName (name ++ rest) = .ok (String.ofList name, rest) := by
  obtain ⟨c, cs, rfl, hc⟩ := h.exists_head
  rw [List.cons_append, readName, if_pos hc, readNameRest_of_isName h hrest]
  rfl

/-- What is read after an identifier completes a name. -/
lemma isName_of_readNameRest {before : List Char} (hbefore : IsIdentifier before)
    (h : readNameRest cs = .ok (name, rest)) : IsName (before ++ name) := by
  fun_induction readNameRest cs generalizing before name rest with
  | case1 c cs hc ih =>
    obtain ⟨⟨name', rest'⟩, hread, hresult⟩ := bind_eq_ok_iff.mp h
    obtain ⟨rfl, rfl⟩ := Prod.mk.inj (Except.ok.inj hresult)
    have hc' : IsIdentifier [c] := ⟨c, [], rfl, hc, by simp⟩
    exact .qualified hbefore (ih hc' hread)
  | case2 => cases h
  | case3 => cases h
  | case4 c cs _ _ hc ih =>
    obtain ⟨⟨name', rest'⟩, hread, hresult⟩ := bind_eq_ok_iff.mp h
    obtain ⟨rfl, rfl⟩ := Prod.mk.inj (Except.ok.inj hresult)
    have hname := ih (hbefore.snoc hc) hread
    rwa [List.append_assoc] at hname
  | case5 =>
    obtain ⟨rfl, -⟩ := Prod.mk.inj (Except.ok.inj h)
    rw [List.append_nil]
    exact .ident hbefore
  | case6 =>
    obtain ⟨rfl, -⟩ := Prod.mk.inj (Except.ok.inj h)
    rw [List.append_nil]
    exact .ident hbefore

/-- **What is read is a name.** -/
theorem isName_of_readName {text : String} (h : readName cs = .ok (text, rest)) :
    IsName text.toList := by
  cases cs with
  | nil => cases h
  | cons c cs =>
    rw [readName] at h
    by_cases hc : startsName c = true
    · rw [if_pos hc] at h
      obtain ⟨⟨name, rest'⟩, hread, hresult⟩ := bind_eq_ok_iff.mp h
      obtain ⟨rfl, rfl⟩ := Prod.mk.inj (Except.ok.inj hresult)
      have hc' : IsIdentifier [c] := ⟨c, [], rfl, hc, by simp⟩
      rw [String.toList_ofList]
      exact isName_of_readNameRest hc' hread
    · rw [if_neg hc] at h
      cases h

end

end Beans
