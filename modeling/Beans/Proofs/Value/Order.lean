import Beans.Bean.Compare
import Beans.Proofs.Order.Transitive
import Beans.Proofs.Value.ScalarOrder

/-!
# The order of values is total

The order of values is defined by cases on pairs of kinds, and goes down into lists, sorted sets and
maps, and what beans show. Here an observation is taken apart the same way whatever its kind, into
a rank, a scalar, two sequences, an object and a name; its order is lexicographic in these parts.
So one induction, through the two sequences, serves all kinds.

## Main definitions

* `Beans.Observation.items`, `Beans.Observation.values` — the two sequences of an observation.

## Main results

* `Beans.Observation.compareBy_eq` — the order of observations is lexicographic in their parts.
* `Beans.Observation.transCmp_compareBy` — it is a total preorder if the order of objects is.
* `Beans.compareBy_totalPreorder` — values and beans are totally preordered.

## Implementation notes

Totality is `Std.TransCmp`, so that instances carry it through lexicographic combinations. For the
induction it is split in two: swapping the arguments, and `Order.Fits` for three of them.
-/

set_option autoImplicit false

open Std

namespace Beans

namespace Observation

/-! ## Parts -/

/-- The scalar. -/
def atom : Observation → Scalar
  | scalar s => s
  | _ => .null

/-- The parts that are compared first: the items, the keys, or the values that a bean shows. -/
def items : Observation → List Observation
  | list as => as
  | set as => as
  | map ks _ => ks
  | present a => [a]
  | bean _ slots => slots.filterMap Slot.value?
  | _ => []

/-- The values of a map. -/
def values : Observation → List Observation
  | map _ vs => vs
  | _ => []

/-- The identity of an object, and any for all else. -/
def object : Observation → Identity
  | thing i => i
  | grid i _ => i
  | _ => .made

/-- The name of the type of a bean. -/
def typeName : Observation → String
  | bean t _ => t.name
  | _ => ""

/-- The items are smaller. -/
lemma sizeOf_lt_of_mem_items {a x : Observation} (h : x ∈ a.items) : sizeOf x < sizeOf a := by
  cases a with
  | list as | set as =>
    have : sizeOf x < sizeOf as := List.sizeOf_lt_of_mem h
    simp only [list.sizeOf_spec, set.sizeOf_spec]
    omega
  | map ks vs =>
    have : sizeOf x < sizeOf ks := List.sizeOf_lt_of_mem h
    simp only [map.sizeOf_spec]
    omega
  | present a =>
    obtain rfl : x = a := List.mem_singleton.mp h
    simp only [present.sizeOf_spec]
    omega
  | bean t slots =>
    obtain ⟨s, hs, hx⟩ := List.mem_filterMap.mp h
    have := List.sizeOf_lt_of_mem hs
    cases s with
    | hidden n => cases hx
    | failed n => cases hx
    | shown n v =>
      obtain rfl : v = x := Option.some.inj hx
      simp only [bean.sizeOf_spec, Slot.shown.sizeOf_spec] at this ⊢
      omega
  | scalar s => cases h
  | absent => cases h
  | thing i => cases h
  | grid i g => cases h

/-- The values of a map are smaller. -/
lemma sizeOf_lt_of_mem_values {a x : Observation} (h : x ∈ a.values) : sizeOf x < sizeOf a := by
  cases a with
  | map ks vs =>
    have : sizeOf x < sizeOf vs := List.sizeOf_lt_of_mem h
    simp only [map.sizeOf_spec]
    omega
  | _ => cases h

/-! ## The order by parts -/

section

variable (objects : Identity → Identity → Ordering)

/-- Of slots, only the values that they show are compared. -/
lemma compareShownBy_eq (slots : List (Slot Observation)) (bs : List Observation) :
    compareShownBy objects slots bs = compareAllBy objects (slots.filterMap Slot.value?) bs := by
  induction slots generalizing bs with
  | nil => cases bs <;> rfl
  | cons s slots ih =>
    cases s with
    | hidden n => exact ih bs
    | failed n => exact ih bs
    | shown n a =>
      cases bs with
      | nil => rfl
      | cons b bs => exact congrArg _ (ih bs)

/-- Observations of different rank are ordered by it. -/
lemma compareBy_of_rank_ne {a b : Observation} (h : a.rank ≠ b.rank) :
    compareBy objects a b = Ord.compare a.rank b.rank := by
  cases a <;> cases b <;> first | rfl | exact absurd rfl h | exact Scalar.compare_of_rank_ne h

/-! ## Sequences -/

/-- Sequences are ordered either way if their items are. -/
lemma compareAllBy_swap {as bs : List Observation}
    (h : ∀ a ∈ as, ∀ b, compareBy objects a b = (compareBy objects b a).swap) :
    compareAllBy objects as bs = (compareAllBy objects bs as).swap := by
  induction as generalizing bs with
  | nil => cases bs <;> rfl
  | cons a as ih =>
    cases bs with
    | nil => rfl
    | cons b bs =>
      obtain ⟨ha, has⟩ := List.forall_mem_cons.mp h
      simp only [compareAllBy]
      rw [ha b, ih has, Ordering.swap_then]

/-- The outcomes for sequences fit if those for their items do. -/
lemma compareAllBy_fits {as bs cs : List Observation}
    (h : ∀ a ∈ as, ∀ b c,
      Order.Fits (compareBy objects a b) (compareBy objects b c) (compareBy objects a c)) :
    Order.Fits (compareAllBy objects as bs) (compareAllBy objects bs cs)
      (compareAllBy objects as cs) := by
  induction as generalizing bs cs with
  | nil => cases bs <;> cases cs <;> constructor <;> simp [compareAllBy]
  | cons a as ih =>
    obtain ⟨ha, has⟩ := List.forall_mem_cons.mp h
    cases bs with
    | nil => cases cs <;> constructor <;> simp [compareAllBy]
    | cons b bs =>
      cases cs with
      | nil => constructor <;> simp [compareAllBy, eq_comm]
      | cons c cs => exact (ha b c).then (ih has)

/-! ## Observations -/

variable [TransCmp objects]

/-- **The order of observations is lexicographic in their parts.** -/
theorem compareBy_eq (a b : Observation) : compareBy objects a b =
    (Ord.compare a.rank b.rank).then ((a.atom.compare b.atom).then
      ((compareAllBy objects a.items b.items).then ((compareAllBy objects a.values b.values).then
        ((objects a.object b.object).then (Ord.compare a.typeName b.typeName))))) := by
  by_cases hrank : a.rank = b.rank
  swap
  · have hne : Ord.compare a.rank b.rank ≠ .eq := fun heq => hrank (Nat.compare_eq_eq.mp heq)
    rw [compareBy_of_rank_ne objects hrank]
    cases hcompare : Ord.compare a.rank b.rank
    · rfl
    · exact absurd hcompare hne
    · rfl
  have hnil : compareAllBy objects [] [] = .eq := rfl
  rw [hrank, ReflOrd.compare_self, Ordering.eq_then]
  have hscalar (s : Scalar) : s.rank < 5 := by cases s <;> simp [Scalar.rank]
  -- of the pairs of kinds, the ones of one rank are left
  cases a <;> cases b <;> try (simp [rank] at hrank; done)
  all_goals try (have hlt := hscalar ‹_›; simp only [rank] at hrank; omega)
  all_goals
    try simp only [compareBy, compareShownBy_eq, atom, items, values, object, typeName,
      ReflCmp.compare_self, hnil, Ordering.then_eq, Ordering.eq_then]
  case absent.present | present.absent => rfl
  case present.present => exact (Ordering.then_eq).symm

/-- Swapping two observations swaps their order. -/
theorem compareBy_swap (a b : Observation) :
    compareBy objects a b = (compareBy objects b a).swap := by
  induction hn : sizeOf a using Nat.strong_induction_on generalizing a b with
  | _ n ih =>
    subst hn
    have hitems : compareAllBy objects a.items b.items = _ := compareAllBy_swap objects
      fun x hx y => ih _ (sizeOf_lt_of_mem_items hx) x y rfl
    have hvalues : compareAllBy objects a.values b.values = _ := compareAllBy_swap objects
      fun x hx y => ih _ (sizeOf_lt_of_mem_values hx) x y rfl
    rw [compareBy_eq, compareBy_eq objects b a]
    simp only [Ordering.swap_then, ← hitems, ← hvalues, ← OrientedCmp.eq_swap]

/-- The outcomes for three observations fit. -/
theorem compareBy_fits (a b c : Observation) :
    Order.Fits (compareBy objects a b) (compareBy objects b c) (compareBy objects a c) := by
  induction hn : sizeOf a using Nat.strong_induction_on generalizing a b c with
  | _ n ih =>
    subst hn
    rw [compareBy_eq objects a b, compareBy_eq objects b c, compareBy_eq objects a c]
    refine .then (Order.fits_of_transCmp _ _ _ _) <| .then (Order.fits_of_transCmp _ _ _ _) <|
      .then (compareAllBy_fits objects fun x hx y z => ?_) <|
      .then (compareAllBy_fits objects fun x hx y z => ?_) <|
      .then (Order.fits_of_transCmp _ _ _ _) (Order.fits_of_transCmp _ _ _ _)
    · exact ih _ (sizeOf_lt_of_mem_items hx) x y z rfl
    · exact ih _ (sizeOf_lt_of_mem_values hx) x y z rfl

/-- The order of observations is a total preorder. -/
instance transCmp_compareBy : TransCmp (compareBy objects) :=
  Order.transCmp_of_fits (compareBy_swap objects) (compareBy_fits objects)

end

end Observation

/-! ## Values and beans -/

section

variable (objects : Identity → Identity → Ordering) [TransCmp objects]

/-- The order of values is a total preorder. -/
instance Value.transCmp_compareBy : TransCmp (Value.compareBy objects) :=
  Order.transCmp_of_fits (fun _ _ => Observation.compareBy_swap objects _ _)
    fun _ _ _ => Observation.compareBy_fits objects _ _ _

/-- The ascending order of beans by a property is a total preorder. -/
instance MetaProperty.transCmp_compareBeansBy (p : MetaProperty) :
    TransCmp (p.compareBeansBy objects true) := by
  refine Order.transCmp_of_fits (fun a b => ?_) fun a b c => ?_
  · cases ha : p.get a <;> cases hb : p.get b <;>
      simp [MetaProperty.compareBeansBy, ha, hb, ← OrientedCmp.eq_swap]
  · unfold MetaProperty.compareBeansBy
    cases p.get a <;> cases p.get b <;> cases p.get c <;>
      first
        | exact Order.fits_of_transCmp (Value.compareBy objects) _ _ _
        | constructor <;> simp [eq_comm]

end

/-- The order of objects in use is a total preorder. -/
instance Identity.transCmp_compare : TransCmp Identity.compare := by
  have hlex : Identity.compare = compareLex (compareOn fun i : Identity => i != .made)
      (compareLex (compareOn fun | .named l _ => l | .made => "")
        (compareOn fun | .named _ n => n | .made => 0)) := by
    funext a b
    cases a <;> cases b <;> simp [Identity.compare, compareLex, compareOn] <;> rfl
  rw [hlex]
  infer_instance

/-- The order of values in use is a total preorder. -/
instance Value.transCmp_compare : TransCmp Value.compare :=
  Value.transCmp_compareBy Identity.compare

end Beans
