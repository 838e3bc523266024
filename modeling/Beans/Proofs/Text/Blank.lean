import Mathlib.Tactic.Common
import Beans.Text.Blank
import Beans.Text.Range

/-!
# Blank characters in tables

Letters and digits are told by a test for code points up to 127 and by a table of ranges beyond. Blank
characters are few ranges, too. That they are in no table is seen by comparing the ranges with each
other, not the characters.

## Main definitions

* `Beans.Text.rangesApart` — no range of one list meets one of another.
* `Beans.Text.blankRanges` — the ranges of blank characters.

## Main results

* `Beans.Text.eq_false_of_inRanges` — what is in some ranges is not in a table that is apart from them.
-/

set_option autoImplicit false

namespace Beans.Text

variable {as bs : List (Nat × Nat)} {c : Char}

/-- No range of one list meets one of another. -/
def rangesApart (as bs : List (Nat × Nat)) : Bool :=
  as.all fun a => bs.all fun b => Nat.blt a.2 b.1 || Nat.blt b.2 a.1

lemma inRanges_eq_false (hapart : rangesApart as bs = true) (h : inRanges as c = true) :
    inRanges bs c = false := by
  refine eq_false_of_ne_true fun hother => ?_
  obtain ⟨a, ha, hfrom, hto⟩ := inRanges_iff.mp h
  obtain ⟨b, hb, hfrom', hto'⟩ := inRanges_iff.mp hother
  have hmeet := List.all_eq_true.mp (List.all_eq_true.mp hapart a ha) b hb
  rcases Bool.or_eq_true_iff.mp hmeet with hless | hless
  · have hless : a.2 < b.1 := Nat.blt_eq.mp hless
    omega
  · have hless : b.2 < a.1 := Nat.blt_eq.mp hless
    omega

/-- **What is in some ranges is not in a table that is apart from them**, if the characters that the
table has a test for fail it. -/
theorem eq_false_of_inRanges (ascii : Char → Bool)
    (hascii : ∀ n ∈ List.range 128, inRanges as (Char.ofNat n) = true →
      ascii (Char.ofNat n) = false)
    (hapart : rangesApart as bs = true) (h : inRanges as c = true) :
    (if c.toNat < 128 then ascii c else inRanges bs c) = false := by
  split
  case isTrue hlow =>
    have htest := hascii c.toNat (List.mem_range.mpr hlow)
    rw [Char.ofNat_toNat] at htest
    exact htest h
  case isFalse => exact inRanges_eq_false hapart h

/-- The ranges of blank characters. -/
def blankRanges : List (Nat × Nat) :=
  [(9, 13), (0x20, 0x20), (0x85, 0x85), (0xA0, 0xA0), (0x1680, 0x1680), (0x2000, 0x200A),
    (0x2028, 0x2029), (0x202F, 0x202F), (0x205F, 0x205F), (0x3000, 0x3000)]

lemma inRanges_blankRanges (h : isBlank c = true) : inRanges blankRanges c = true := by
  simp only [isBlank, Bool.or_eq_true, Bool.and_eq_true, decide_eq_true_eq, beq_iff_eq] at h
  simp only [inRanges, blankRanges, List.any_cons, List.any_nil, Bool.or_eq_true,
    Bool.and_eq_true, decide_eq_true_eq]
  omega

end Beans.Text
