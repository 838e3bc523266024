import Beans.Number.Binary

/-!
# Decimal text of binary numbers

The shortest decimal digits that read back as a 64-bit binary number, and the two forms in which
they are written.

## Main definitions

* `shortest` — the digits and the place of the decimal point.
* `Binary64.text` — always positional; whole numbers have no point.
* `Binary64.pointedText` — always with a point or an exponent; the exponent is used below `10 ^ -4`
  and from `10 ^ 16` on.

## Implementation notes

The numbers that round to a magnitude are those between the middles to its two neighbours; the
middles belong to them if the bits are even. For one digit, two digits, and so on up to seventeen,
the two decimals next to the magnitude are tested against that interval; the first that lies in it
is the result, of two the nearer, and the greater if both are equally near.
-/

set_option autoImplicit false

namespace Beans.Number

/-- A positive decimal: `0.d₁d₂…` times ten to the power of `point`. -/
structure Decimal where
  /-- The digits, neither the first nor the last of them zero. -/
  digits : List Char
  /-- The exponent. -/
  point : Int
deriving DecidableEq, Repr

/-- The number of decimal digits. -/
def digitCount (n : Nat) : Nat := (Nat.toDigits 10 n).length

/-- The decimal of a number of steps of `10 ^ step`. -/
def Decimal.ofSteps (n : Nat) (step : Int) : Decimal :=
  let digits := Nat.toDigits 10 n
  ⟨(digits.reverse.dropWhile (· == '0')).reverse, digits.length + step⟩

/-- A magnitude with the interval of the numbers that round to it, all in the same unit. -/
structure Rounded where
  /-- The middle to the neighbour below. -/
  low : Nat
  /-- The magnitude. -/
  value : Nat
  /-- The middle to the neighbour above. -/
  high : Nat
  /-- Whether the middles belong to the interval. -/
  closed : Bool

/-- The interval of a positive magnitude in units of `2 ^ -1075`. -/
def Rounded.ofBits (bits : Nat) : Rounded :=
  let units := Format.double.magnitude
  ⟨units (bits - 1) + units bits, 2 * units bits, units bits + units (bits + 1), bits % 2 == 0⟩

/-- The decimal next to a magnitude that lies in its interval, among the multiples of
`10 ^ step`. -/
def Rounded.nextDecimal? (r : Rounded) (step : Int) : Option Decimal :=
  let scale := Nat.pow 10 (-step).toNat
  let grid := Nat.pow 2 1075 * Nat.pow 10 step.toNat
  let inside (n : Nat) : Bool :=
    let x := n * grid
    if r.closed then decide (r.low * scale ≤ x ∧ x ≤ r.high * scale)
    else decide (r.low * scale < x ∧ x < r.high * scale)
  let below := r.value * scale / grid
  let rest := r.value * scale % grid
  match inside below, inside (below + 1) with
  | true, true => some (.ofSteps (if 2 * rest < grid then below else below + 1) step)
  | true, false => some (.ofSteps below step)
  | false, true => some (.ofSteps (below + 1) step)
  | false, false => none

/-- The shortest decimal that reads back as the positive magnitude with the given bits. -/
def shortest (bits : Nat) : Decimal :=
  let r := Rounded.ofBits bits
  let smallest := r.value * Nat.pow 10 343 / Nat.pow 2 1075
  let places : Int := digitCount smallest - 343
  ((List.range' 1 17).findSome? fun (n : Nat) => r.nextDecimal? (places - n)).getD
    (.ofSteps smallest (-343))

/-- Positional digits; a whole number is followed by `tail`. -/
def Decimal.positional (d : Decimal) (tail : List Char) : List Char :=
  if d.point ≤ 0 then ['0', '.'] ++ List.replicate (-d.point).toNat '0' ++ d.digits
  else if d.digits.length ≤ d.point.toNat then
    d.digits ++ List.replicate (d.point.toNat - d.digits.length) '0' ++ tail
  else d.digits.take d.point.toNat ++ '.' :: d.digits.drop d.point.toNat

/-- One digit before the point, and an exponent. -/
def Decimal.scientific (d : Decimal) : List Char :=
  d.digits.take 1 ++ (if d.digits.length ≤ 1 then [] else '.' :: d.digits.drop 1) ++
    'e' :: (toString (d.point - 1)).toList

/-- The text of a number whose finite magnitudes other than zero are written by `write`. -/
def Binary64.textWith (zero : String) (write : Decimal → List Char) (x : Binary64) : String :=
  let bits := x.magnitudeBits
  if Format.double.infinity < bits then "NaN"
  else
    let magnitude :=
      if bits = Format.double.infinity then "inf"
      else if bits = 0 then zero
      else String.ofList (write (shortest bits))
    if x.isNegative then "-" ++ magnitude else magnitude

/-- The positional text. -/
def Binary64.text (x : Binary64) : String := x.textWith "0" fun d => d.positional []

/-- The text with a point or an exponent. -/
def Binary64.pointedText (x : Binary64) : String :=
  x.textWith "0.0" fun d =>
    if -3 ≤ d.point ∧ d.point ≤ 16 then d.positional ['.', '0'] else d.scientific

end Beans.Number
