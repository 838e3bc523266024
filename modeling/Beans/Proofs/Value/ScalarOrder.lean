import Mathlib.Tactic.Common
import Beans.Proofs.Number.Rounding
import Beans.Value.Scalar

/-!
# The order of scalars is total

Integers are compared exactly, but an integer and a floating-point number after rounding. That the
two rules together are transitive is not seen from the rules. Rounding is monotone, so both are
readings of one lexicographic order: first by the place of the rounded number, then by whether it
was rounded at all, then by the exact integer and by its kind.

## Main results

* `Beans.Scalar.compare_eq_lex` — the order of scalars as a lexicographic order of keys.
* `Beans.Scalar.transCmp_compare` — it is a total preorder.
* `Beans.Scalar.eq_of_compare` — scalars that are tied are the same.
-/

set_option autoImplicit false

open Std

namespace Beans.Scalar

open Number

/-! ## Keys -/

/-- The place of an integer, rounded, in the total order of floating-point numbers. It is not to be
computed with. -/
@[irreducible]
def rounded (x : Int) : Int := (Binary64.ofInt x).key

/-- The place of a number, rounded, in the total order of floating-point numbers. -/
def place : Scalar → Int
  | int i => rounded i.toInt
  | uint u => rounded u.toNat
  | float x => x.key
  | null | bool _ | char _ | text _ => 0

/-- Whether a scalar is a floating-point number. -/
def isFloat : Scalar → Bool
  | float _ => true
  | null | bool _ | char _ | int _ | uint _ | text _ => false

/-- The exact integer. -/
def exact : Scalar → Int
  | int i => i.toInt
  | uint u => u.toNat
  | null | bool _ | char _ | float _ | text _ => 0

/-- The number of a truth value or a character. -/
def code : Scalar → Nat
  | bool b => b.toNat
  | char c => c.toNat
  | null | int _ | uint _ | float _ | text _ => 0

/-- The characters of a text. -/
def content : Scalar → String
  | text s => s
  | null | bool _ | char _ | int _ | uint _ | float _ => ""

/-- The order by all keys in turn. -/
def lex : Scalar → Scalar → Ordering :=
  compareLex (compareOn rank) <| compareLex (compareOn place) <| compareLex (compareOn isFloat) <|
    compareLex (compareOn exact) <| compareLex (compareOn numberRank) <|
      compareLex (compareOn code) (compareOn content)

/-! ## Integers -/

/-- Signed words are ordered as the integers that they stand for. -/
lemma compare_int64 (a b : Int64) : Ord.compare a b = Ord.compare a.toInt b.toInt := by
  simp only [Ord.compare, compareOfLessAndEq, Int64.lt_iff_toInt_lt, Int64.toInt_inj]

/-- Unsigned words are ordered as the integers that they stand for. -/
lemma compare_uint64 (a b : UInt64) :
    Ord.compare a b = Ord.compare (a.toNat : Int) (b.toNat : Int) := by
  simp only [Ord.compare, compareOfLessAndEq, UInt64.lt_iff_toNat_lt, Int.ofNat_lt, Int.ofNat_inj,
    UInt64.toNat_inj]

/-- Characters are ordered by their numbers. -/
lemma compare_char (a b : Char) : Ord.compare a b = Ord.compare a.toNat b.toNat := by
  simp only [Ord.compare, compareOfLessAndEq, Char.lt_def, UInt32.lt_iff_toNat_lt, ← Char.toNat_inj,
    Char.toNat]

/-- Truth values are ordered by their numbers. -/
lemma compare_bool (a b : Bool) : Ord.compare a b = Ord.compare a.toNat b.toNat := by
  cases a <;> cases b <;> rfl

/-- The rounded place, folded. -/
lemma key_ofInt_eq_rounded (x : Int) : (Binary64.ofInt x).key = rounded x := by
  unfold rounded
  with_reducible rfl

/-- Rounding keeps the order of integers. -/
lemma rounded_mono {x y : Int} (h : x ≤ y) : rounded x ≤ rounded y := by
  unfold rounded
  exact Binary64.key_ofInt_mono h

/-- Comparing integers by their rounded places first makes no difference. -/
lemma rounded_then_exact (x y : Int) :
    (Ord.compare (rounded x) (rounded y)).then (Ord.compare x y) = Ord.compare x y := by
  rcases Int.lt_trichotomy x y with h | h | h
  · have hplace := Int.isLE_compare.mpr (rounded_mono h.le)
    rw [Int.compare_eq_lt.mpr h]
    rcases Ordering.isLE_iff_eq_lt_or_eq_eq.mp hplace with heq | heq <;> rw [heq] <;> rfl
  · rw [h, ReflOrd.compare_self, Ordering.eq_then, ReflOrd.compare_self]
  · have hplace := Int.isGE_compare.mpr (rounded_mono h.le)
    rw [Int.compare_eq_gt.mpr h]
    rcases Ordering.isGE_iff_eq_gt_or_eq_eq.mp hplace with heq | heq <;> rw [heq] <;> rfl

/-! ## The order by keys -/

/-- Scalars of different rank are ordered by it. -/
lemma compare_of_rank_ne {a b : Scalar} (h : a.rank ≠ b.rank) :
    a.compare b = Ord.compare a.rank b.rank := by
  cases a <;> cases b <;> first | exact absurd rfl h | rfl

/-- The order by keys starts with the rank. -/
lemma lex_of_rank_ne {a b : Scalar} (h : a.rank ≠ b.rank) :
    lex a b = Ord.compare a.rank b.rank := by
  have hne : Ord.compare a.rank b.rank ≠ .eq := fun heq => h (Nat.compare_eq_eq.mp heq)
  unfold lex compareLex compareOn
  cases hrank : Ord.compare a.rank b.rank <;> simp_all

/-- The order by keys, written out. -/
lemma lex_eq (a b : Scalar) :
    lex a b = (Ord.compare a.rank b.rank).then ((Ord.compare a.place b.place).then
      ((Ord.compare a.isFloat b.isFloat).then ((Ord.compare a.exact b.exact).then
        ((Ord.compare a.numberRank b.numberRank).then ((Ord.compare a.code b.code).then
          (Ord.compare a.content b.content)))))) :=
  rfl

/-- **The order of scalars is lexicographic.**

**Proof sketch.** Scalars of different rank are told apart by the rank. Among the others, two
integers are told apart by the exact integer, and comparing the places first makes no difference
(`rounded_then_exact`); an integer and a floating-point number by the place, or else by the kind. -/
theorem compare_eq_lex : Scalar.compare = lex := by
  funext a b
  by_cases hrank : a.rank = b.rank
  swap
  · rw [compare_of_rank_ne hrank, lex_of_rank_ne hrank]
  rw [lex_eq, hrank, ReflOrd.compare_self, Ordering.eq_then]
  -- of the pairs of kinds, the ones of one rank are left
  cases a <;> cases b <;> try (simp [rank] at hrank; done)
  all_goals
    simp only [Scalar.compare, toBinary64?, key_ofInt_eq_rounded, place, isFloat, exact, numberRank,
      code, content, compare_int64, compare_uint64, compare_char, compare_bool, rounded_then_exact,
      ReflOrd.compare_self, Ordering.eq_then, Ordering.then_eq]
  case int.uint | uint.int =>
    -- different kinds of integers: the exact integer first
    rw [← Ordering.then_assoc, rounded_then_exact]
    rfl
  case int.float | uint.float | float.int | float.uint => rfl

/-- The order of scalars is a total preorder. -/
instance transCmp_compare : TransCmp Scalar.compare := by
  rw [compare_eq_lex]
  unfold lex
  infer_instance

/-- Scalars that are tied are the same. -/
theorem eq_of_compare {a b : Scalar} (h : a.compare b = .eq) : a = b := by
  rw [compare_eq_lex, lex_eq] at h
  simp only [Ordering.then_eq_eq, LawfulEqCmp.compare_eq_iff_eq] at h
  obtain ⟨hrank, hplace, hfloat, hexact, hnumber, hcode, hcontent⟩ := h
  cases a <;> cases b <;> try (simp [rank, numberRank] at hrank hnumber; done)
  case null.null => rfl
  case bool.bool b c => cases b <;> cases c <;> first | rfl | cases hcode
  case char.char => exact congrArg _ (Char.toNat_inj.mp hcode)
  case int.int => exact congrArg _ (Int64.toInt_inj.mp hexact)
  case uint.uint => exact congrArg _ (UInt64.toNat_inj.mp (Int.ofNat_inj.mp hexact))
  case float.float => exact congrArg _ (Binary64.key_inj hplace)
  case text.text => exact congrArg _ hcontent

end Beans.Scalar
