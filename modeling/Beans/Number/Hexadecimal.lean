/-!
# Hexadecimal text

Numbers written with a fixed count of hexadecimal digits, in lower case.
-/

set_option autoImplicit false

namespace Beans.Number

/-- The value of a digit. -/
def hexValue? (c : Char) : Option Nat :=
  if '0' ≤ c ∧ c ≤ '9' then some (c.toNat - '0'.toNat)
  else if 'a' ≤ c ∧ c ≤ 'f' then some (c.toNat - 'a'.toNat + 10)
  else none

/-- The number that digits continue. -/
def readHexFrom (n : Nat) : List Char → Option Nat
  | [] => some n
  | c :: cs => (hexValue? c).bind fun d => readHexFrom (16 * n + d) cs

/-- The number that digits write. -/
def readHex? (s : String) : Option Nat := readHexFrom 0 s.toList

/-- A number with at least a count of digits. -/
def hexText (count n : Nat) : String :=
  let digits := Nat.toDigits 16 n
  String.ofList (List.replicate (count - digits.length) '0' ++ digits)

end Beans.Number
