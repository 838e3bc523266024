/-!
# Digests of data

The keyed-hash construction of two rounds of mixing: eight bytes at a time enter the state with
one round each, and three rounds follow the end. The key is zero, so equal data have equal digests
in every run.

## Main definitions

* `Feed` — the bytes to be digested, and the ways to write data as bytes.
* `digest` — the digest of some bytes.
-/

set_option autoImplicit false

namespace Beans.Digest

/-! ### Bytes -/

/-- The bytes that stand for some data. -/
abbrev Feed := List UInt8

/-- The bytes of a word, the lowest first. -/
def ofWord (w : UInt64) : Feed :=
  (List.range 8).map fun i => (w >>> (8 * UInt64.ofNat i)).toUInt8

/-- The lowest bytes of a word, the lowest first. -/
def lowBytes (count : Nat) (w : UInt64) : Feed := (ofWord w).take count

/-- The bytes of a number below `2 ^ 64`. -/
def ofNat (n : Nat) : Feed := ofWord (.ofNat n)

/-- One byte that tells alternatives apart. -/
def ofTag (n : Nat) : Feed := [.ofNat n]

/-- The bytes of a truth value. -/
def ofBool (b : Bool) : Feed := [if b then 1 else 0]

/-- The bytes of a text, with an end mark that no text contains. -/
def ofText (s : String) : Feed := s.toUTF8.data.toList ++ [0xFF]

/-- The bytes of a sequence: its length, then its items. -/
def ofSequence (items : List Feed) : Feed := ofNat items.length ++ items.flatten

/-! ### Mixing -/

/-- The four words of the state. -/
structure State where
  v0 : UInt64
  v1 : UInt64
  v2 : UInt64
  v3 : UInt64

/-- The state before any byte. -/
def State.start : State :=
  ⟨0x736f6d6570736575, 0x646f72616e646f6d, 0x6c7967656e657261, 0x7465646279746573⟩

/-- A word turned left. -/
def turnLeft (x : UInt64) (n : UInt64) : UInt64 := (x <<< n) ||| (x >>> (64 - n))

/-- One round. -/
def State.round (s : State) : State :=
  let v0 := s.v0 + s.v1
  let v1 := turnLeft s.v1 13 ^^^ v0
  let v0 := turnLeft v0 32
  let v2 := s.v2 + s.v3
  let v3 := turnLeft s.v3 16 ^^^ v2
  let v0 := v0 + v3
  let v3 := turnLeft v3 21 ^^^ v0
  let v2 := v2 + v1
  let v1 := turnLeft v1 17 ^^^ v2
  let v2 := turnLeft v2 32
  ⟨v0, v1, v2, v3⟩

/-- The state after a word. -/
def State.absorb (s : State) (word : UInt64) : State :=
  let t := { s with v3 := s.v3 ^^^ word }.round
  { t with v0 := t.v0 ^^^ word }

/-- The word of up to eight bytes, the lowest first. -/
def wordOf (bytes : Feed) : UInt64 := bytes.foldr (fun b w => (w <<< 8) ||| b.toUInt64) 0

/-- The state after all whole words, and the bytes that are left. -/
def absorbAll (s : State) : Feed → State × Feed
  | b0 :: b1 :: b2 :: b3 :: b4 :: b5 :: b6 :: b7 :: rest =>
    absorbAll (s.absorb (wordOf [b0, b1, b2, b3, b4, b5, b6, b7])) rest
  | rest => (s, rest)

/-- The digest of some bytes. -/
def digest (bytes : Feed) : UInt64 :=
  let (s, rest) := absorbAll State.start bytes
  let last := wordOf rest ||| (UInt64.ofNat bytes.length <<< 56)
  let t := s.absorb last
  let u := { t with v2 := t.v2 ^^^ 0xFF }.round.round.round
  u.v0 ^^^ u.v1 ^^^ u.v2 ^^^ u.v3

/-- The digest of items whose order does not matter: the sum of their digests. -/
def unordered (items : List Feed) : UInt64 := items.foldl (fun sum item => sum + digest item) 0

end Beans.Digest
