import Beans.Number.Binary

/-!
# Similarity of words

The Jaro–Winkler similarity and the choice of the word that a misspelt one most likely stands for.
Every step of the arithmetic is rounded to the 53 significant bits of a 64-bit floating-point
number, because the rounding decides between words that are equally similar.

## Main definitions

* `Fraction.rounded` — the nearest fraction with 53 significant bits.
* `jaroWinkler` — the similarity of two words, between 0 and 1.
* `closest` — the most similar of some words, if it is more similar than 4/5.
-/

set_option autoImplicit false

namespace Beans.Text

/-- A fraction with a positive denominator. -/
structure Fraction where
  /-- The numerator. -/
  num : Nat
  /-- The denominator. -/
  den : Nat
deriving DecidableEq, Repr

namespace Fraction

/-- One fraction is less than another one. -/
def less (a b : Fraction) : Bool := decide (a.num * b.den < b.num * a.den)

/-- The nearest fraction with 53 significant bits; a tie goes to the even one. -/
def rounded (x : Fraction) : Fraction :=
  let wide := 53 + x.den.log2 - x.num.log2
  let scale := if x.num * Nat.pow 2 wide < Nat.pow 2 53 * x.den then wide else wide - 1
  ⟨Number.roundHalfEven (x.num * Nat.pow 2 scale) x.den, Nat.pow 2 scale⟩

/-- A quotient of counts. -/
def ratio (a b : Nat) : Fraction := rounded ⟨a, b⟩

/-- A rounded sum. -/
def plus (a b : Fraction) : Fraction := rounded ⟨a.num * b.den + b.num * a.den, a.den * b.den⟩

/-- A rounded product. -/
def times (a b : Fraction) : Fraction := rounded ⟨a.num * b.num, a.den * b.den⟩

/-- What is missing up to 1. -/
def rest (a : Fraction) : Fraction := rounded ⟨a.den - a.num, a.den⟩

/-- The third part. -/
def third (a : Fraction) : Fraction := rounded ⟨a.num, 3 * a.den⟩

end Fraction

/-- Marks the first free place from `low` on, before `high`, that holds `c`. -/
def claimPlace (c : Char) (low high : Nat) : Nat → List (Char × Bool) → Option (List (Char × Bool))
  | _, [] => none
  | place, (d, taken) :: rest =>
    if high ≤ place then none
    else if low ≤ place && c == d && !taken then some ((d, true) :: rest)
    else (claimPlace c low high (place + 1) rest).map ((d, taken) :: ·)

/-- Pairs the characters of the first word with places of the second one, within `range`; gives the
paired characters and the marked places. -/
def pairUp (range : Nat) : Nat → List Char → List (Char × Bool) → List Char × List (Char × Bool)
  | _, [], places => ([], places)
  | i, c :: cs, places =>
    match claimPlace c (i - range) (i + range + 1) 0 places with
    | some places =>
      let (paired, places) := pairUp range (i + 1) cs places
      (c :: paired, places)
    | none => pairUp range (i + 1) cs places

/-- The Jaro similarity: the mean of the paired shares of both words and of the share of pairs that
stand in order. -/
def jaro (a b : List Char) : Fraction :=
  if a.isEmpty && b.isEmpty then ⟨1, 1⟩
  else
    let range := max a.length b.length / 2 - 1
    let (left, places) := pairUp range 0 a (b.map (·, false))
    let right := (places.filter (·.2)).map (·.1)
    let m := left.length
    if m = 0 then ⟨0, 1⟩
    else
      let moved := ((left.zip right).filter fun (x, y) => x != y).length / 2
      (((Fraction.ratio m a.length).plus (.ratio m b.length)).plus (.ratio (m - moved) m)).third

/-- The number of places, up to four, at which two words start alike. -/
def sharedStart (a b : List Char) : Nat :=
  (((a.take 4).zip b).takeWhile fun (x, y) => x == y).length

/-- The Jaro–Winkler similarity: a Jaro similarity above 7/10 is raised for a shared start. -/
def jaroWinkler (a b : String) : Fraction :=
  let sim := jaro a.toList b.toList
  if Fraction.less (.ratio 7 10) sim then
    let shared := sharedStart a.toList b.toList
    sim.plus (((Fraction.ratio 1 10).times ⟨shared, 1⟩).times sim.rest)
  else sim

/-- The first of the words that are most similar to `word`, if that is more than 4/5. -/
def closest (word : String) (words : List String) : Option String :=
  let step (best : Option (Fraction × String)) (candidate : String) :=
    let sim := jaroWinkler word candidate
    match best with
    | none => if Fraction.less (.ratio 4 5) sim then some (sim, candidate) else none
    | some (top, _) => if Fraction.less top sim then some (sim, candidate) else best
  (words.foldl step none).map (·.2)

end Beans.Text
