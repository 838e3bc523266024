import Mathlib.Tactic.Common
import Beans.Proofs.Number.Rounding

/-!
# Widening is exact

A number of the 32-bit format is one of the 64-bit format as well, so that it comes back unchanged
from there. This holds of zeros, infinities and all quiet NaNs too; only a NaN that signals is made
quiet on the way.

## Main definitions

* `Beans.Number.Format.Reads` — a magnitude is a significand of the format at a last place.
* `Beans.Number.Binary32.IsSignaling` — a NaN whose payload has its first bit clear.

## Main results

* `Beans.Number.Format.encode_magnitude` — rounding the magnitude of some bits gives these bits.
* `Beans.Number.Format.Reads.magnitude_encode` — a magnitude of the format is not changed by rounding.
* `Beans.Number.Binary32.narrow_widen` — a number that does not signal comes back unchanged.
* `Beans.Number.Binary64.not_isSignaling_narrow` — what comes from the wider format does not signal.
-/

set_option autoImplicit false

namespace Beans.Number

/-- A multiple of the divisor is rounded to the factor. -/
lemma roundHalfEven_mul (k : Nat) {d : Nat} (hd : 0 < d) : roundHalfEven (k * d) d = k := by
  simp only [roundHalfEven, Nat.mul_div_cancel k hd, Nat.mul_mod_left]
  rw [if_pos (.inl hd)]

/-- The leading bit of a number is there already. -/
lemma or_two_pow_of_le {p k : Nat} (hle : 2 ^ k ≤ p) (hlt : p < 2 ^ (k + 1)) : p ||| 2 ^ k = p := by
  obtain ⟨r, rfl⟩ := Nat.exists_eq_add_of_le hle
  have hr : r < 2 ^ k := by
    rw [pow_succ] at hlt
    omega
  have hsplit := Nat.two_pow_add_eq_or_of_lt hr 1
  rw [Nat.mul_one] at hsplit
  rw [hsplit, Nat.or_comm, ← Nat.or_assoc, Nat.or_self]

/-! ## Magnitudes of a format -/

namespace Format

/-- A magnitude is a significand at a last place; the significand has its leading bit unless the
last place is the lowest one. -/
structure Reads (f : Format) (n significand place : Nat) : Prop where
  unit_le : f.unit ≤ place
  lt : significand < 2 ^ (f.fraction + 1)
  leading : place = f.unit ∨ 2 ^ f.fraction ≤ significand
  eq : n = significand * 2 ^ place

variable {f : Format} {n q e : Nat}

/-- The last place of a magnitude. -/
lemma Reads.lastPlace_eq (h : f.Reads n q e) : f.lastPlace n = e := by
  have hlt : n < 2 ^ (f.fraction + 1 + e) := by
    rw [h.eq, pow_add]
    exact Nat.mul_lt_mul_of_pos_right h.lt (Nat.two_pow_pos e)
  have hunit := h.unit_le
  rcases Nat.eq_zero_or_pos n with rfl | hn
  · -- nothing has the lowest place, as its significand has no leading bit
    have hq : q = 0 := by
      rcases Nat.mul_eq_zero.mp h.eq.symm with hq | hpow
      · exact hq
      · exact absurd hpow (Nat.two_pow_pos e).ne'
    have hpos := Nat.two_pow_pos f.fraction
    have hplace := h.leading.resolve_right (by omega)
    simp [lastPlace, hplace]
  · have hlog := (Nat.log2_lt hn.ne').mpr hlt
    rcases h.leading with hplace | hq
    · simp only [lastPlace]
      omega
    · have hle : 2 ^ (f.fraction + e) ≤ n := by
        rw [h.eq, pow_add]
        exact Nat.mul_le_mul_right _ hq
      have := (Nat.le_log2 hn.ne').mpr hle
      simp only [lastPlace]
      omega

/-- A magnitude of the format is encoded by its significand and its last place. -/
lemma Reads.encode_eq (h : f.Reads n q e) :
    f.encode n = min f.infinity ((e - f.unit) * 2 ^ f.fraction + q) := by
  have hround : roundHalfEven n (2 ^ e) = q := by
    rw [h.eq]
    exact roundHalfEven_mul q (Nat.two_pow_pos e)
  change min f.infinity ((f.lastPlace n - f.unit) * 2 ^ f.fraction +
    roundHalfEven n (2 ^ f.lastPlace n)) = _
  rw [h.lastPlace_eq, hround]

/-- The magnitude of the bits for a significand and a last place. -/
lemma Reads.magnitude_eq (h : f.Reads n q e) :
    f.magnitude ((e - f.unit) * 2 ^ f.fraction + q) = n := by
  have hpos := Nat.two_pow_pos f.fraction
  have hunit := h.unit_le
  have hlt := h.lt
  rw [pow_succ] at hlt
  change (if ((e - f.unit) * 2 ^ f.fraction + q) / 2 ^ f.fraction = 0 then
      ((e - f.unit) * 2 ^ f.fraction + q) % 2 ^ f.fraction * 2 ^ f.unit
    else (2 ^ f.fraction + ((e - f.unit) * 2 ^ f.fraction + q) % 2 ^ f.fraction) *
      2 ^ (f.unit + ((e - f.unit) * 2 ^ f.fraction + q) / 2 ^ f.fraction - 1)) = n
  rw [Nat.mul_add_mod', Nat.add_comm, Nat.add_mul_div_right _ _ hpos]
  rcases Nat.lt_or_ge q (2 ^ f.fraction) with hq | hq
  · have hplace := h.leading.resolve_right (by omega)
    rw [Nat.div_eq_of_lt hq, Nat.mod_eq_of_lt hq, if_pos (by omega), h.eq, hplace]
  · have hdiv : q / 2 ^ f.fraction = 1 := Nat.div_eq_of_lt_le (by omega) (by omega)
    have hmod : 2 ^ f.fraction + q % 2 ^ f.fraction = q := by
      have := Nat.div_add_mod q (2 ^ f.fraction)
      rw [hdiv] at this
      omega
    have hexponent : f.unit + (1 + (e - f.unit)) - 1 = e := by omega
    rw [hdiv, if_neg (by omega), hmod, hexponent, h.eq]

/-- A magnitude of the format, up to infinity, is not changed by rounding. -/
theorem Reads.magnitude_encode (h : f.Reads n q e)
    (hle : (e - f.unit) * 2 ^ f.fraction + q ≤ f.infinity) : f.magnitude (f.encode n) = n := by
  rw [h.encode_eq, Nat.min_eq_right hle, h.magnitude_eq]

/-- The magnitude of any bits is a magnitude of the format. -/
lemma exists_reads (f : Format) (bits : Nat) :
    ∃ q e, f.Reads (f.magnitude bits) q e ∧ (e - f.unit) * 2 ^ f.fraction + q = bits := by
  have hmod := Nat.mod_lt bits (Nat.two_pow_pos f.fraction)
  have hsplit := Nat.div_add_mod' bits (2 ^ f.fraction)
  have hpow : 2 ^ (f.fraction + 1) = 2 ^ f.fraction * 2 := pow_succ ..
  have hmagnitude : f.magnitude bits = if bits / 2 ^ f.fraction = 0
      then bits % 2 ^ f.fraction * 2 ^ f.unit
      else (2 ^ f.fraction + bits % 2 ^ f.fraction) *
        2 ^ (f.unit + bits / 2 ^ f.fraction - 1) := rfl
  generalize bits / 2 ^ f.fraction = exponent at *
  generalize bits % 2 ^ f.fraction = rest at *
  cases exponent with
  | zero =>
    exact ⟨rest, f.unit, ⟨le_refl _, by omega, .inl rfl, hmagnitude⟩, by simpa using hsplit⟩
  | succ exponent =>
    refine ⟨2 ^ f.fraction + rest, f.unit + exponent,
      ⟨by omega, by omega, .inr (by omega), hmagnitude⟩, ?_⟩
    rw [Nat.add_sub_cancel_left, ← Nat.add_assoc, ← Nat.add_one_mul, hsplit]

/-- **Rounding the magnitude of some bits gives these bits.** -/
theorem encode_magnitude {bits : Nat} (h : bits ≤ f.infinity) : f.encode (f.magnitude bits) = bits := by
  obtain ⟨q, e, hreads, rfl⟩ := f.exists_reads bits
  rw [hreads.encode_eq, Nat.min_eq_right h]

/-- A short significand at a place that is not too low is a magnitude of the format.

**Proof sketch.** The last place of the number is not above `e`, as the significand is short.
Written from that place on, the significand is short enough, and long enough unless the place is the
lowest one. -/
lemma exists_reads_of_eq_mul (he : f.unit ≤ e) (hq : q < 2 ^ (f.fraction + 1))
    (hn : n = q * 2 ^ e) : ∃ q', f.Reads n q' (f.lastPlace n) := by
  have hlt : n < 2 ^ (f.fraction + 1 + e) := by
    rw [hn, pow_add]
    exact Nat.mul_lt_mul_of_pos_right hq (Nat.two_pow_pos e)
  have hle : f.lastPlace n ≤ e := by
    rcases Nat.eq_zero_or_pos n with rfl | hpos
    · simpa [lastPlace] using he
    · have := (Nat.log2_lt hpos.ne').mpr hlt
      simp only [lastPlace]
      omega
  obtain ⟨place, hplace⟩ : ∃ place, f.lastPlace n = place := ⟨_, rfl⟩
  have heq : n = q * 2 ^ (e - place) * 2 ^ place := by
    rw [Nat.mul_assoc, ← pow_add, Nat.sub_add_cancel (hplace ▸ hle), hn]
  rw [hplace]
  refine ⟨q * 2 ^ (e - place), hplace ▸ le_max_left .., ?_, ?_, heq⟩
  · have hself : n < 2 ^ (f.fraction + 1 + place) := by
      refine Nat.lt_log2_self.trans_le (Nat.pow_le_pow_right (by norm_num) ?_)
      simp only [lastPlace] at hplace
      omega
    rw [heq, pow_add] at hself
    exact Nat.lt_of_mul_lt_mul_right hself
  · by_cases hunit : place = f.unit
    · exact .inl hunit
    · have hlog : f.fraction + place = n.log2 := by
        simp only [lastPlace] at hplace
        omega
      have hne : n ≠ 0 := by
        rintro rfl
        simp [lastPlace] at hplace
        omega
      have hself := Nat.log2_self_le hne
      rw [← hlog, heq, pow_add] at hself
      exact .inr (Nat.le_of_mul_le_mul_right hself (Nat.two_pow_pos _))

/-! ## From one format to another -/

/-- The bits of a number in another format, by its sign and its magnitude. -/
lemma convert_eq (source target : Format) (sign : Nat) {bits : Nat} (hbits : bits < source.signBit) :
    source.convert target (sign * source.signBit + bits) = sign * target.signBit +
      if source.infinity < bits then source.quietNaN target bits
      else if bits = source.infinity then target.infinity
      else target.encode (source.magnitude bits) := by
  have hpos : 0 < source.signBit := Nat.zero_lt_of_lt hbits
  rw [convert, Nat.mul_add_mod', Nat.mod_eq_of_lt hbits, Nat.add_comm (sign * source.signBit),
    Nat.add_mul_div_right _ _ hpos, Nat.div_eq_of_lt hbits, Nat.zero_add]

end Format

/-- The bits without the sign. -/
def Binary32.magnitudeBits (x : Binary32) : Nat := x.bits.toNat % Format.single.signBit

/-- Not a number. -/
def Binary32.IsNaN (x : Binary32) : Prop := Format.single.infinity < x.magnitudeBits

/-- Not a number, and the first bit of the payload is clear. -/
def Binary32.IsSignaling (x : Binary32) : Prop := x.IsNaN ∧ x.magnitudeBits % 2 ^ 23 < 2 ^ 22

/-- A finite magnitude of the 32-bit format is a finite one of the 64-bit format.

**Proof sketch.** A magnitude of the 32-bit format has at most 24 digits, from a place that the
64-bit format has as well. So it is a magnitude of that format, and writing it down loses nothing.
-/
lemma magnitude_double_encode {bits : Nat} (h : bits < Format.single.infinity) :
    Format.double.encode (Format.single.magnitude bits) < Format.double.infinity ∧
      Format.double.magnitude (Format.double.encode (Format.single.magnitude bits)) =
        Format.single.magnitude bits := by
  have hsingle : Format.single.infinity = 255 * 2 ^ 23 := rfl
  have hdouble : Format.double.infinity = 2047 * 2 ^ 52 := rfl
  obtain ⟨q, e, hreads, hbits⟩ := Format.single.exists_reads bits
  have hq : q < 2 ^ 24 := hreads.lt
  have hunit : 925 ≤ e := hreads.unit_le
  have hbits : (e - 925) * 2 ^ 23 + q = bits := hbits
  generalize Format.single.magnitude bits = n at hreads ⊢
  have hn : n < 2 ^ (24 + e) := by
    rw [hreads.eq, pow_add]
    exact Nat.mul_lt_mul_of_pos_right hq (Nat.two_pow_pos e)
  obtain ⟨q', hreads'⟩ := Format.exists_reads_of_eq_mul (f := .double) (Nat.zero_le e)
    (hq.trans (by norm_num [Format.double])) hreads.eq
  have hq' : q' < 2 ^ 53 := hreads'.lt
  have hplace : Format.double.lastPlace n ≤ 1150 := by
    rcases Nat.eq_zero_or_pos n with rfl | hpos
    · simp [Format.lastPlace, Format.double]
    · have := (Nat.log2_lt hpos.ne').mpr hn
      simp only [Format.lastPlace, Format.double]
      omega
  have hlt : (Format.double.lastPlace n - Format.double.unit) * 2 ^ Format.double.fraction + q' <
      Format.double.infinity := by
    change (Format.double.lastPlace n - 0) * 2 ^ 52 + q' < 2047 * 2 ^ 52
    omega
  refine ⟨?_, hreads'.magnitude_encode hlt.le⟩
  rw [hreads'.encode_eq, Nat.min_eq_right hlt.le]
  exact hlt

/-- A finite magnitude comes back from the 64-bit format. -/
lemma encode_double_encode {bits : Nat} (h : bits < Format.single.infinity) :
    Format.single.encode (Format.double.magnitude
      (Format.double.encode (Format.single.magnitude bits))) = bits := by
  rw [(magnitude_double_encode h).2, Format.encode_magnitude h.le]

/-- A quiet NaN is made wider by zeros. -/
lemma quietNaN_double {payload : Nat} (hle : 2 ^ 22 ≤ payload) (hlt : payload < 2 ^ 23) :
    Format.single.quietNaN .double (Format.single.infinity + payload) =
      Format.double.infinity + payload * 2 ^ 29 := by
  have hmod : (255 * 2 ^ 23 + payload) % 2 ^ 23 = payload := by omega
  have hwide : payload * 2 ^ 52 / 2 ^ 23 = payload * 2 ^ 29 := by omega
  change Format.double.infinity +
    ((255 * 2 ^ 23 + payload) % 2 ^ 23 * 2 ^ 52 / 2 ^ 23 ||| 2 ^ 51) = _
  rw [hmod, hwide, or_two_pow_of_le (by omega) (by omega)]

/-- A quiet NaN that was made wider is cut down to what it was. -/
lemma quietNaN_single {payload : Nat} (hle : 2 ^ 22 ≤ payload) (hlt : payload < 2 ^ 23) :
    Format.double.quietNaN .single (Format.double.infinity + payload * 2 ^ 29) =
      Format.single.infinity + payload := by
  have hmod : (2047 * 2 ^ 52 + payload * 2 ^ 29) % 2 ^ 52 = payload * 2 ^ 29 := by omega
  have hnarrow : payload * 2 ^ 29 * 2 ^ 23 / 2 ^ 52 = payload := by omega
  change Format.single.infinity +
    ((2047 * 2 ^ 52 + payload * 2 ^ 29) % 2 ^ 52 * 2 ^ 23 / 2 ^ 52 ||| 2 ^ 22) = _
  rw [hmod, hnarrow, or_two_pow_of_le hle hlt]

/-- **A number that does not signal comes back unchanged from the wider format.**

**Proof sketch.** The sign is kept by both conversions. A finite magnitude of the narrow format is
one of the wide format, so that neither conversion rounds; infinity becomes infinity; and the payload
of a quiet NaN gets zeros behind it, which are cut off again. -/
theorem Binary32.narrow_widen {x : Binary32} (h : ¬x.IsSignaling) : x.widen.narrow = x := by
  have hsingle : Format.single.infinity = 255 * 2 ^ 23 := rfl
  have hdouble : Format.double.infinity = 2047 * 2 ^ 52 := rfl
  have hsign : Format.single.signBit = 2 ^ 31 := rfl
  have hsign' : Format.double.signBit = 2 ^ 63 := rfl
  obtain ⟨word⟩ := x
  have hword := word.toNat_lt
  obtain ⟨sign, bits, hbits, hsplit⟩ : ∃ sign bits, bits < 2 ^ 31 ∧
      word.toNat = sign * 2 ^ 31 + bits :=
    ⟨_, _, Nat.mod_lt _ (by norm_num), (Nat.div_add_mod' word.toNat (2 ^ 31)).symm⟩
  -- the magnitude in the wide format, and that it comes back
  obtain ⟨wide, hwide, hwiden, hnarrow⟩ : ∃ wide, wide < 2 ^ 63 ∧
      Format.single.convert .double (sign * 2 ^ 31 + bits) = sign * 2 ^ 63 + wide ∧
      Format.double.convert .single (sign * 2 ^ 63 + wide) = sign * 2 ^ 31 + bits := by
    have hto := Format.convert_eq .single .double sign (hsign ▸ hbits)
    have hfrom (wide : Nat) (hwide : wide < 2 ^ 63) :=
      Format.convert_eq .double .single sign (hsign' ▸ hwide)
    rw [hsign, hsign'] at hto
    simp only [hsign, hsign'] at hfrom
    rcases Nat.lt_trichotomy bits Format.single.infinity with hlt | heq | hgt
    · obtain ⟨hfinite, -⟩ := magnitude_double_encode hlt
      have hwide : Format.double.encode (Format.single.magnitude bits) < 2 ^ 63 := by omega
      refine ⟨_, hwide, ?_, ?_⟩
      · rw [hto, if_neg (by omega), if_neg hlt.ne]
      · rw [hfrom _ hwide, if_neg (by omega), if_neg hfinite.ne, encode_double_encode hlt]
    · refine ⟨Format.double.infinity, by omega, ?_, ?_⟩
      · rw [hto, if_neg (by omega), if_pos heq]
      · rw [hfrom _ (by omega), if_neg (by omega), if_pos rfl, heq]
    · obtain ⟨payload, rfl⟩ := Nat.exists_eq_add_of_le hgt.le
      have hlt : payload < 2 ^ 23 := by omega
      have hle : 2 ^ 22 ≤ payload := by
        by_contra hsignal
        have hbits' : Binary32.magnitudeBits ⟨word⟩ = Format.single.infinity + payload := by
          simp only [Binary32.magnitudeBits, hsign]
          omega
        refine h ⟨?_, ?_⟩
        · rw [Binary32.IsNaN, hbits']
          exact hgt
        · rw [hbits', hsingle]
          omega
      refine ⟨Format.double.infinity + payload * 2 ^ 29, by omega, ?_, ?_⟩
      · rw [hto, if_pos hgt, quietNaN_double hle hlt]
      · rw [hfrom _ (by omega), if_pos (by omega), quietNaN_single hle hlt]
  have hbits64 : (UInt64.ofNat (sign * 2 ^ 63 + wide)).toNat = sign * 2 ^ 63 + wide := by
    rw [UInt64.toNat_ofNat', Nat.mod_eq_of_lt (by omega)]
  rw [Binary32.widen, Binary64.narrow, hsplit, hwiden, hbits64, hnarrow, ← hsplit,
    UInt32.ofNat_toNat]

/-! ## Numbers that do not signal -/

/-- The magnitude of bits that consist of a sign and a magnitude. -/
lemma Binary32.magnitudeBits_ofNat {sign bits : Nat} (_hsign : sign < 2) (hbits : bits < 2 ^ 31) :
    (Binary32.mk (.ofNat (sign * 2 ^ 31 + bits))).magnitudeBits = bits := by
  have hsignBit : Format.single.signBit = 2 ^ 31 := rfl
  rw [Binary32.magnitudeBits, UInt32.toNat_ofNat', hsignBit]
  omega

/-- Nothing up to infinity signals. -/
lemma Binary32.not_isSignaling_of_le {x : Binary32}
    (h : x.magnitudeBits ≤ Format.single.infinity) : ¬x.IsSignaling :=
  fun hsignal => absurd hsignal.1 (Nat.not_lt.mpr h)

/-- **The nearest number of the narrower format does not signal**, as every NaN is made quiet. -/
theorem Binary64.not_isSignaling_narrow (x : Binary64) : ¬x.narrow.IsSignaling := by
  have hsingle : Format.single.infinity = 255 * 2 ^ 23 := rfl
  have hsign : Format.single.signBit = 2 ^ 31 := rfl
  have hsign' : Format.double.signBit = 2 ^ 63 := rfl
  have hword := x.bits.toNat_lt
  obtain ⟨sign, bits, hbits, hsplit⟩ : ∃ sign bits, bits < 2 ^ 63 ∧
      x.bits.toNat = sign * 2 ^ 63 + bits :=
    ⟨_, _, Nat.mod_lt _ (by norm_num), (Nat.div_add_mod' x.bits.toNat (2 ^ 63)).symm⟩
  have hconvert := Format.convert_eq .double .single sign (hsign' ▸ hbits)
  rw [hsign, hsign'] at hconvert
  rw [Binary64.narrow, hsplit, hconvert]
  split_ifs with hnan hinfinity
  · -- the first bit of the payload is set
    obtain ⟨payload, hpayload⟩ : ∃ payload, Format.double.quietNaN .single bits =
        Format.single.infinity + (payload ||| 2 ^ 22) ∧ payload < 2 ^ 23 :=
      ⟨bits % 2 ^ 52 * 2 ^ 23 / 2 ^ 52, rfl, by omega⟩
    have hor : payload ||| 2 ^ 22 < 2 ^ 23 := Nat.or_lt_two_pow hpayload.2 (by norm_num)
    have hfirst : 2 ^ 22 ≤ payload ||| 2 ^ 22 := Nat.right_le_or
    rintro ⟨-, hsignal⟩
    rw [Binary32.magnitudeBits_ofNat (by omega) (by omega), hpayload.1, hsingle] at hsignal
    omega
  · refine Binary32.not_isSignaling_of_le ?_
    rw [Binary32.magnitudeBits_ofNat (by omega) (by omega)]
  · have hle := Format.encode_le_infinity .single (Format.double.magnitude bits)
    refine Binary32.not_isSignaling_of_le ?_
    rwa [Binary32.magnitudeBits_ofNat (by omega) (by omega)]

/-- The number nearest to an integer does not signal. -/
theorem Binary32.not_isSignaling_ofInt (i : Int) : ¬(Binary32.ofInt i).IsSignaling := by
  have hsingle : Format.single.infinity = 255 * 2 ^ 23 := rfl
  have hle := Format.encode_le_infinity .single (i.natAbs * unitsOfOne)
  obtain ⟨sign, hsign, hbits⟩ : ∃ sign, sign < 2 ∧ Format.single.ofInt i =
      sign * 2 ^ 31 + Format.single.encode (i.natAbs * unitsOfOne) := by
    rcases lt_or_ge i 0 with hi | hi
    · exact ⟨1, by norm_num, by rw [Format.ofInt, if_pos hi]; rfl⟩
    · exact ⟨0, by norm_num, by rw [Format.ofInt, if_neg (by omega), Nat.zero_mul]⟩
  refine Binary32.not_isSignaling_of_le ?_
  rw [Binary32.ofInt, hbits, Binary32.magnitudeBits_ofNat hsign (by omega)]
  exact hle

end Beans.Number
