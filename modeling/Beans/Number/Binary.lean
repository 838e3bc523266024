/-!
# Binary floating-point numbers

Numbers in the 64-bit and the 32-bit binary interchange formats, kept as their bits. Every finite
magnitude is a natural number of units of `2 ^ -1074`, the smallest positive magnitude of the 64-bit
format; so conversions need no arithmetic but that of the natural numbers.

## Main definitions

* `Format` — the widths of a format and its smallest unit.
* `Format.magnitude`, `Format.encode` — from bits to units, and back by rounding to nearest.
* `Format.convert` — from one format to another.
* `Binary64`, `Binary32` — numbers of the two formats.
* `Binary64.key` — the total order of all numbers, signed zeros and NaNs included.

## Implementation notes

A magnitude's bits read as a natural number grow with the magnitude. `Format.encode` relies on it: a
significand that rounds up to the next power of two carries into the exponent, and what lies beyond
the largest finite magnitude is cut down to infinity.
-/

set_option autoImplicit false

namespace Beans.Number

/-- A binary format: a sign, an exponent field and a fraction field. -/
structure Format where
  /-- The width of the fraction field. -/
  fraction : Nat
  /-- The width of the exponent field. -/
  exponent : Nat
  /-- The smallest positive magnitude is `2 ^ unit` units. -/
  unit : Nat

/-- The 64-bit format. -/
def Format.double : Format := ⟨52, 11, 0⟩

/-- The 32-bit format. -/
def Format.single : Format := ⟨23, 8, 925⟩

/-- The bits of infinity. -/
def Format.infinity (f : Format) : Nat := (Nat.pow 2 f.exponent - 1) * Nat.pow 2 f.fraction

/-- The sign bit. -/
def Format.signBit (f : Format) : Nat := Nat.pow 2 (f.fraction + f.exponent)

/-- The units of the magnitude with the given bits. -/
def Format.magnitude (f : Format) (bits : Nat) : Nat :=
  let exponent := bits / Nat.pow 2 f.fraction
  let fraction := bits % Nat.pow 2 f.fraction
  if exponent = 0 then fraction * Nat.pow 2 f.unit
  else (Nat.pow 2 f.fraction + fraction) * Nat.pow 2 (f.unit + exponent - 1)

/-- A quotient rounded to the nearest natural number, and from the middle to the even one. -/
def roundHalfEven (n d : Nat) : Nat :=
  let quotient := n / d
  let rest := 2 * (n % d)
  if rest < d ∨ rest = d ∧ quotient % 2 = 0 then quotient else quotient + 1

/-- The bits of the magnitude nearest to a number of units. -/
def Format.encode (f : Format) (n : Nat) : Nat :=
  let exponent := max f.unit (n.log2 - f.fraction)
  min f.infinity
    ((exponent - f.unit) * Nat.pow 2 f.fraction + roundHalfEven n (Nat.pow 2 exponent))

/-- The bits of a quiet NaN whose payload starts as that of the given NaN does. -/
def Format.quietNaN (source target : Format) (bits : Nat) : Nat :=
  let payload :=
    bits % Nat.pow 2 source.fraction * Nat.pow 2 target.fraction / Nat.pow 2 source.fraction
  target.infinity + (payload ||| Nat.pow 2 (target.fraction - 1))

/-- The bits of a number in another format. -/
def Format.convert (source target : Format) (word : Nat) : Nat :=
  let bits := word % source.signBit
  word / source.signBit * target.signBit +
    if source.infinity < bits then source.quietNaN target bits
    else if bits = source.infinity then target.infinity
    else target.encode (source.magnitude bits)

/-- The units of one. -/
def unitsOfOne : Nat := Nat.pow 2 1074

/-- The bits of the number nearest to an integer. -/
def Format.ofInt (f : Format) (i : Int) : Nat :=
  (if i < 0 then f.signBit else 0) + f.encode (i.natAbs * unitsOfOne)

/-! ### The two formats -/

/-- A number of the 64-bit format. -/
structure Binary64 where
  bits : UInt64
deriving DecidableEq, Repr

/-- A number of the 32-bit format. -/
structure Binary32 where
  bits : UInt32
deriving DecidableEq, Repr

/-- The nearest number of the 64-bit format. -/
def Binary64.ofInt (i : Int) : Binary64 := ⟨.ofNat (Format.double.ofInt i)⟩

/-- The nearest number of the 32-bit format. -/
def Binary32.ofInt (i : Int) : Binary32 := ⟨.ofNat (Format.single.ofInt i)⟩

/-- The same number in the wider format. -/
def Binary32.widen (x : Binary32) : Binary64 :=
  ⟨.ofNat (Format.single.convert Format.double x.bits.toNat)⟩

/-- The nearest number of the narrower format. -/
def Binary64.narrow (x : Binary64) : Binary32 :=
  ⟨.ofNat (Format.double.convert Format.single x.bits.toNat)⟩

/-- Whether the sign bit is set. -/
def Binary64.isNegative (x : Binary64) : Bool := decide (Format.double.signBit ≤ x.bits.toNat)

/-- The bits without the sign. -/
def Binary64.magnitudeBits (x : Binary64) : Nat := x.bits.toNat % Format.double.signBit

/-- The place of a number in the total order: negative NaNs, negative infinity, negative numbers,
negative zero, positive zero, positive numbers, positive infinity, positive NaNs. -/
def Binary64.key (x : Binary64) : Int :=
  if x.isNegative then -(x.magnitudeBits : Int) - 1 else x.magnitudeBits

end Beans.Number
