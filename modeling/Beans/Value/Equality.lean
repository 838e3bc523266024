import Beans.Value.Observation

/-!
# Equality of values

Two values are equal if they are of one kind and show the same. Beans are equal if their types are
the same and so are their properties, by name. Objects are equal if they are the same object, or
grids with equal cells.

## Main definitions

* `Observation.same`, `Value.same` — equality.
* `Observation.feed`, `Value.digest` — bytes that equal values have in common, and their digest.
-/

set_option autoImplicit false

namespace Beans

open Digest

namespace Observation

mutual

/-- Whether two observations are equal. -/
def same : Observation → Observation → Bool
  | scalar a, scalar b => decide (a = b)
  | list as, list bs => sameAll as bs
  | set as, set bs => sameAll as bs
  | map ks vs, map ks' vs' => sameAll ks ks' && sameAll vs vs'
  | absent, absent => true
  | present a, present b => a.same b
  | bean t as, bean t' bs => t.same t' && as.length == bs.length && matchesSlots as bs
  | thing i, thing j => i.isSame j
  | grid i ⟨r, c, as⟩, grid j ⟨r', c', bs⟩ =>
    i.isSame j || (r == r' && c == c' && sameCells as bs)
  | _, _ => false
termination_by structural a => a

/-- Whether two sequences are equal. -/
def sameAll : List Observation → List Observation → Bool
  | [], [] => true
  | a :: as, b :: bs => a.same b && sameAll as bs
  | _, _ => false
termination_by structural as => as

/-- Whether each of some slots has an equal one of the same name among others. -/
def matchesSlots : List (Slot Observation) → List (Slot Observation) → Bool
  | [], _ => true
  | .hidden n :: as, bs =>
    (match bs.find? fun b => b.name == n with
      | some (.hidden _) => true
      | _ => false) && matchesSlots as bs
  | .failed _ :: _, _ => false
  | .shown n a :: as, bs =>
    (match bs.find? fun b => b.name == n with
      | some (.shown _ b) => a.same b
      | _ => false) && matchesSlots as bs
termination_by structural as => as

/-- Whether two lists of cells are equal. -/
def sameCells : List ((Nat × Nat) × Observation) → List ((Nat × Nat) × Observation) → Bool
  | [], [] => true
  | (c, a) :: as, (d, b) :: bs => decide (c = d) && a.same b && sameCells as bs
  | _, _ => false
termination_by structural as => as

end

/-! ### Digests -/

/-- The bytes of a slot from those of its value. -/
def slotFeed : Slot Feed → Feed
  | .hidden n => ofText n ++ ofBool false
  | .failed n => ofText n ++ ofBool true
  | .shown n v => ofText n ++ ofBool true ++ v

/-- The digest of a bean from the bytes of its slots. -/
def slotsDigest (slots : List (Slot Feed)) : UInt64 := 7 + unordered (slots.map slotFeed)

mutual

/-- The bytes that equal observations have in common. -/
def feed : Observation → Feed
  | scalar s => s.feed
  | list items => ofTag 5 ++ ofSequence (feedAll items)
  | set items => ofTag 6 ++ ofWord (unordered (feedAll items))
  | map keys values =>
    ofTag 7 ++ ofWord (unordered (List.zipWith (· ++ ·) (feedAll keys) (feedAll values)))
  | absent => ofTag 8 ++ ofNat 0
  | present v => ofTag 8 ++ ofNat 1 ++ v.feed
  | bean _ slots => ofTag 9 ++ ofWord (slotsDigest (feedSlots slots))
  | thing i => ofTag 10 ++ i.feed
  | grid _ ⟨rows, columns, cells⟩ =>
    ofTag 10 ++ ofNat rows ++ ofNat columns ++ ofSequence (feedCells cells)
termination_by structural v => v

/-- The bytes of observations. -/
def feedAll : List Observation → List Feed
  | [] => []
  | v :: vs => v.feed :: feedAll vs
termination_by structural vs => vs

/-- The bytes of slots. -/
def feedSlots : List (Slot Observation) → List (Slot Feed)
  | [] => []
  | .hidden n :: ss => .hidden n :: feedSlots ss
  | .failed n :: ss => .failed n :: feedSlots ss
  | .shown n v :: ss => .shown n v.feed :: feedSlots ss
termination_by structural ss => ss

/-- The bytes of cells. -/
def feedCells : List ((Nat × Nat) × Observation) → List Feed
  | [] => []
  | (c, v) :: cs => (ofNat c.1 ++ ofNat c.2 ++ v.feed) :: feedCells cs
termination_by structural cs => cs

end

end Observation

/-- Whether two values are equal. -/
def Value.same (a b : Value) : Bool := a.observe.same b.observe

/-- The bytes that equal values have in common. -/
def Value.feed (v : Value) : Feed := v.observe.feed

/-- The digest of a value. -/
def Value.digest (v : Value) : UInt64 := Digest.digest v.feed

end Beans
