import Mathlib.Algebra.Order.Ring.Nat
import Mathlib.Tactic.Common
import Mathlib.Tactic.NormNum
import Beans.Number.Binary

/-!
# Rounding is monotone

The nearest number of a binary format grows with the number that is rounded, and so does the place
in the total order of the 64-bit number that is nearest to an integer.

## Main results

* `Beans.Number.roundHalfEven_mono` — rounding a quotient is monotone in the dividend.
* `Beans.Number.Format.encode_mono` — the bits of the nearest magnitude are monotone.
* `Beans.Number.Binary64.key_ofInt_mono` — from integers to places in the total order.

## Implementation notes

Within one exponent the bits grow with the rounded significand. Across exponents a significand that
was rounded up is at most the next power of two, which is what the smallest significand of the next
exponent encodes to.
-/

set_option autoImplicit false

namespace Beans.Number

/-! ## Rounding a quotient -/

/-- Rounding does not go below the quotient. -/
lemma div_le_roundHalfEven (n d : Nat) : n / d ≤ roundHalfEven n d := by
  simp only [roundHalfEven]
  split <;> omega

/-- Rounding goes at most one above the quotient. -/
lemma roundHalfEven_le_succ_div (n d : Nat) : roundHalfEven n d ≤ n / d + 1 := by
  simp only [roundHalfEven]
  split <;> omega

/-- Rounding is monotone in the dividend.

**Proof sketch.** If the quotients differ, the bounds of one step are enough. If they agree, the
larger dividend has the larger rest, and whatever rounds the smaller one up rounds it up as well. -/
lemma roundHalfEven_mono {n m : Nat} (d : Nat) (h : n ≤ m) :
    roundHalfEven n d ≤ roundHalfEven m d := by
  rcases (Nat.div_le_div_right (c := d) h).lt_or_eq with hlt | heq
  · calc roundHalfEven n d ≤ n / d + 1 := roundHalfEven_le_succ_div n d
      _ ≤ m / d := hlt
      _ ≤ roundHalfEven m d := div_le_roundHalfEven m d
  · have hrest : n % d ≤ m % d := by
      have hn := Nat.div_add_mod n d
      have hm := Nat.div_add_mod m d
      rw [heq] at hn
      omega
    simp only [roundHalfEven, heq]
    split <;> split <;> omega

/-- A dividend below a multiple of the divisor rounds to at most the factor. -/
lemma roundHalfEven_le_of_lt_mul {n d k : Nat} (h : n < d * k) : roundHalfEven n d ≤ k := by
  have hq : n / d < k := Nat.div_lt_of_lt_mul h
  exact (roundHalfEven_le_succ_div n d).trans hq

/-- A dividend from a multiple of the divisor on rounds to at least the factor. -/
lemma le_roundHalfEven_of_mul_le {n d k : Nat} (hd : 0 < d) (h : k * d ≤ n) :
    k ≤ roundHalfEven n d :=
  ((Nat.le_div_iff_mul_le hd).mpr h).trans (div_le_roundHalfEven n d)

/-! ## Encoding a magnitude -/

namespace Format

/-- The exponent of the last place of a magnitude. -/
def lastPlace (f : Format) (n : Nat) : Nat := max f.unit (n.log2 - f.fraction)

/-- The exponent of the last place grows with the magnitude. -/
lemma lastPlace_mono (f : Format) {n m : Nat} (h : n ≤ m) : f.lastPlace n ≤ f.lastPlace m := by
  have hlog : n.log2 ≤ m.log2 := by
    rcases Nat.eq_zero_or_pos n with rfl | hn
    · simp
    · exact (Nat.le_log2 (by omega)).mpr ((Nat.log2_self_le (by omega)).trans h)
  simp only [lastPlace]
  omega

/-- A significand, rounded, is at most the next power of two. -/
lemma rounded_le (f : Format) (n : Nat) :
    roundHalfEven n (2 ^ f.lastPlace n) ≤ 2 ^ (f.fraction + 1) := by
  apply roundHalfEven_le_of_lt_mul
  rw [← pow_add]
  calc n < 2 ^ (n.log2 + 1) := Nat.lt_log2_self
    _ ≤ 2 ^ (f.lastPlace n + (f.fraction + 1)) := by
      apply Nat.pow_le_pow_right (by norm_num)
      simp only [lastPlace]
      omega

/-- Above the smallest exponent a significand has its leading bit. -/
lemma le_rounded (f : Format) {n : Nat} (h : f.unit < f.lastPlace n) :
    2 ^ f.fraction ≤ roundHalfEven n (2 ^ f.lastPlace n) := by
  have hlog : f.fraction + f.lastPlace n = n.log2 := by
    simp only [lastPlace] at h ⊢
    omega
  have hn : n ≠ 0 := by
    rintro rfl
    simp [lastPlace] at h
  apply le_roundHalfEven_of_mul_le (Nat.two_pow_pos _)
  rw [← pow_add, hlog]
  exact Nat.log2_self_le hn

/-- **The bits of the nearest magnitude are monotone.**

**Proof sketch.** With equal exponents this is `roundHalfEven_mono`. With different ones the smaller
significand is at most `2 ^ (fraction + 1)` (`rounded_le`) and the larger one at least
`2 ^ fraction` (`le_rounded`); the step of the exponent makes up for the difference. -/
theorem encode_mono (f : Format) {n m : Nat} (h : n ≤ m) : f.encode n ≤ f.encode m := by
  have hplace := f.lastPlace_mono h
  apply min_le_min_left
  change (f.lastPlace n - f.unit) * 2 ^ f.fraction + roundHalfEven n (2 ^ f.lastPlace n) ≤
    (f.lastPlace m - f.unit) * 2 ^ f.fraction + roundHalfEven m (2 ^ f.lastPlace m)
  rcases hplace.eq_or_lt with heq | hlt
  · rw [heq]
    exact Nat.add_le_add_left (roundHalfEven_mono _ h) _
  · have hunit : f.unit ≤ f.lastPlace n := le_max_left ..
    have hstep : (f.lastPlace n - f.unit + 1) * 2 ^ f.fraction ≤
        (f.lastPlace m - f.unit) * 2 ^ f.fraction :=
      Nat.mul_le_mul_right _ (by omega)
    have hlow := f.rounded_le n
    have hhigh := f.le_rounded (n := m) (by omega)
    rw [pow_succ] at hlow
    rw [add_one_mul] at hstep
    omega

/-- A magnitude's bits are at most those of infinity. -/
lemma encode_le_infinity (f : Format) (n : Nat) : f.encode n ≤ f.infinity := Nat.min_le_left ..

end Format

/-! ## The 64-bit format -/

/-- Different numbers have different places. -/
lemma Binary64.key_inj {x y : Binary64} (h : x.key = y.key) : x = y := by
  have hsign : Format.double.signBit = 2 ^ 63 := rfl
  have hx := x.bits.toNat_lt
  have hy := y.bits.toNat_lt
  have hbits : x.bits.toNat = y.bits.toNat := by
    simp only [Binary64.key, Binary64.isNegative, Binary64.magnitudeBits, hsign] at h
    split at h <;> split at h <;> simp_all <;> omega
  cases x
  cases y
  exact congrArg _ (UInt64.toNat_inj.mp hbits)

/-! ## From integers to the 64-bit format -/

/-- The bits of a natural number are those of its magnitude. -/
lemma Format.ofInt_natCast (f : Format) (n : Nat) : f.ofInt n = f.encode (n * unitsOfOne) := by
  rw [Format.ofInt, if_neg (by omega), Int.natAbs_natCast, Nat.zero_add]

/-- The bits of an integer are those of its magnitude behind its sign. -/
lemma Format.ofInt_eq (f : Format) (i : Int) :
    f.ofInt i = (if i < 0 then f.signBit else 0) + f.ofInt i.natAbs := by
  rw [Format.ofInt_natCast, Format.ofInt]

/-- The bits of natural numbers are monotone. -/
lemma Format.ofInt_natCast_mono (f : Format) {n m : Nat} (h : n ≤ m) :
    f.ofInt n ≤ f.ofInt m := by
  rw [Format.ofInt_natCast, Format.ofInt_natCast]
  exact f.encode_mono (Nat.mul_le_mul_right _ h)

/-- The bits of a natural number in the 64-bit format do not reach the sign bit. -/
lemma ofInt_natCast_lt (n : Nat) : Format.double.ofInt n < 2 ^ 63 := by
  rw [Format.ofInt_natCast]
  exact (Format.double.encode_le_infinity _).trans_lt (by decide)

/-- The bits of the number nearest to an integer. -/
lemma toNat_bits_ofInt (i : Int) : (Binary64.ofInt i).bits.toNat =
    (if i < 0 then 2 ^ 63 else 0) + Format.double.ofInt i.natAbs := by
  have hlt := ofInt_natCast_lt i.natAbs
  have hsign : Format.double.signBit = 2 ^ 63 := rfl
  rw [Binary64.ofInt, Format.ofInt_eq, hsign, UInt64.toNat_ofNat', Nat.mod_eq_of_lt]
  split <;> omega

/-- The place of the number nearest to an integer. -/
lemma key_ofInt (i : Int) : (Binary64.ofInt i).key =
    if i < 0 then -(Format.double.ofInt i.natAbs : Int) - 1 else Format.double.ofInt i.natAbs := by
  have hlt := ofInt_natCast_lt i.natAbs
  have hsign : Format.double.signBit = 2 ^ 63 := rfl
  simp only [Binary64.key, Binary64.isNegative, Binary64.magnitudeBits, toNat_bits_ofInt, hsign,
    decide_eq_true_eq]
  by_cases h : i < 0
  · simp only [if_pos h]
    rw [if_pos (by omega), Nat.add_mod_left, Nat.mod_eq_of_lt hlt]
  · simp only [if_neg h]
    rw [if_neg (by omega), Nat.zero_add, Nat.mod_eq_of_lt hlt]

/-- **Rounding integers is monotone**: a larger integer has no smaller nearest number. -/
theorem Binary64.key_ofInt_mono {i j : Int} (h : i ≤ j) :
    (Binary64.ofInt i).key ≤ (Binary64.ofInt j).key := by
  rw [key_ofInt, key_ofInt]
  by_cases hj : j < 0
  · have hi : i < 0 := by omega
    have := Format.double.ofInt_natCast_mono (show j.natAbs ≤ i.natAbs by omega)
    rw [if_pos hi, if_pos hj]
    omega
  · by_cases hi : i < 0
    · rw [if_pos hi, if_neg hj]
      omega
    · have := Format.double.ofInt_natCast_mono (show i.natAbs ≤ j.natAbs by omega)
      rw [if_neg hi, if_neg hj]
      exact_mod_cast this

end Beans.Number
