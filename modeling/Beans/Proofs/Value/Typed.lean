import Mathlib.Tactic.Common
import Beans.Proofs.Number.Widening
import Beans.Proofs.Order.Matched
import Beans.Proofs.Value.Observation
import Beans.Proofs.Value.Order
import Beans.Value.Typed

/-!
# The values of a type

Which typed values are of which type. The items of sets and the keys of maps are integers, characters
or texts; such a key is converted to a scalar that no other key of its type is converted to, and comes
back from it as it was.

## Main definitions

* `Beans.TableType.Holds` — keys as a table of a type holds them.
* `Beans.ValueType.IsKey` — the types of keys.
* `Beans.Typed.HasType` — a value is one of a type.

## Main results

* `Beans.Typed.HasType.ofValue_key` — a key comes back as it was.
* `Beans.Typed.HasType.same_key_iff` — keys are equal if they are the same.
* `Beans.Typed.arrangeBy_perm`, `Beans.Typed.arrangeBy_eq_self` — things with different keys are all
  kept when they are put in order, and stay as they are if they are in order.
-/

set_option autoImplicit false

open Std List

namespace Beans

/-- Keys as a table holds them: none comes twice, and those of a table with an order are in increasing
order. -/
def TableType.Holds : TableType → List Typed → Prop
  | hashed, keys => keys.Nodup
  | ordered, keys => keys.Pairwise fun a b => a.compare b = .lt

/-- The types that the items of sets and the keys of maps have. -/
inductive ValueType.IsKey : ValueType → Prop
  | int (t : IntType) : IsKey (.int t)
  | char : IsKey .char
  | text : IsKey .text

/-- A value is one of a type. -/
inductive Typed.HasType : ValueType → Typed → Prop
  | signed {t : IntType} {i : Int64} (ht : t.isSigned = true) (hi : t.contains i.toInt = true) :
      HasType (.int t) (.signed i)
  | unsigned {t : IntType} {u : UInt64} (ht : t.isSigned = false)
      (hu : t.contains u.toNat = true) : HasType (.int t) (.unsigned u)
  | double (x : Number.Binary64) : HasType .double (.double x)
  | single {x : Number.Binary32} (hx : ¬x.IsSignaling) : HasType .single (.single x)
  | bool (b : Bool) : HasType .bool (.bool b)
  | char (c : Char) : HasType .char (.char c)
  | text (s : String) : HasType .text (.text s)
  | any (v : Value) : HasType .any (.any v)
  | absent (T : ValueType) : HasType (.option T) .absent
  | present {T : ValueType} {a : Typed} (ha : HasType T a) : HasType (.option T) (.present a)
  | wrapper {T : ValueType} {a : Typed} (w : WrapperType) (ha : HasType T a) :
      HasType (.wrapper w T) a
  | sequence {T : ValueType} {items : List Typed} (s : SequenceType)
      (hitems : ∀ a ∈ items, HasType T a) : HasType (.sequence s T) (.sequence items)
  | set {T : ValueType} {items : List Typed} {s : TableType} (hT : T.IsKey)
      (hitems : ∀ a ∈ items, HasType T a) (hholds : s.Holds items) :
      HasType (.set s T) (.set items)
  | map {K V : ValueType} {entries : List (Typed × Typed)} {s : TableType} (hK : K.IsKey)
      (hkeys : ∀ e ∈ entries, HasType K e.1) (hvalues : ∀ e ∈ entries, HasType V e.2)
      (hholds : s.Holds (entries.map Prod.fst)) : HasType (.map s K V) (.map entries)
  | grid {T : ValueType} {g : Grid Typed} (hcells : ∀ c ∈ g.cells, HasType T c.2) :
      HasType (.grid T) (.grid g)
  | bean {t : BeanType} {b : Bean} (hb : b.type.same t = true) : HasType (.bean t) (.bean b)

namespace Typed

/-! ## Dynamic values -/

/-- Items are converted one by one. -/
lemma toValues_eq_map (items : List Typed) : toValues items = items.map toValue := by
  induction items with
  | nil => rfl
  | cons a items ih => exact congrArg _ ih

/-- Entries are converted one by one. -/
lemma toEntries_eq_map (entries : List (Typed × Typed)) :
    toEntries entries = entries.map fun e => (e.1.toValue, e.2.toValue) := by
  induction entries with
  | nil => rfl
  | cons e entries ih => exact congrArg _ ih

/-- Cells are converted one by one. -/
lemma toCells_eq_map (cells : List ((Nat × Nat) × Typed)) :
    toCells cells = cells.map fun c => (c.1, c.2.toValue) := by
  induction cells with
  | nil => rfl
  | cons c cells ih => exact congrArg _ ih

lemma toValue_sequence (items : List Typed) :
    (sequence items).toValue = .list (items.map toValue) :=
  congrArg Value.list (toValues_eq_map items)

lemma toValue_set (items : List Typed) : (set items).toValue = .set (items.map toValue) :=
  congrArg Value.set (toValues_eq_map items)

lemma toValue_map (entries : List (Typed × Typed)) :
    (map entries).toValue = .map (entries.map fun e => (e.1.toValue, e.2.toValue)) :=
  congrArg Value.map (toEntries_eq_map entries)

lemma toValue_grid (g : Grid Typed) : (grid g).toValue = .grid .made (g.map toValue) := by
  obtain ⟨rows, columns, cells⟩ := g
  exact congrArg (fun cs => Value.grid .made ⟨rows, columns, cs⟩) (toCells_eq_map cells)

/-! ## Keys -/

namespace HasType

variable {T : ValueType} {a b : Typed}

/-- A key is converted to a scalar. -/
lemma exists_scalar (hT : T.IsKey) (h : HasType T a) : ∃ s, a.toValue = .scalar s := by
  cases hT <;> cases h <;> exact ⟨_, rfl⟩

/-- An integer of a type is made from the number that it is. -/
lemma ofInt_toInt {t : IntType} {i : Int64} (ht : t.isSigned = true)
    (hi : t.contains i.toInt = true) : t.ofInt i.toInt = .ok (.signed i) := by
  rw [IntType.ofInt, hi, ht, Int64.ofInt_toInt]
  rfl

/-- A natural number of a type is made from the number that it is. -/
lemma ofInt_toNat {t : IntType} {u : UInt64} (ht : t.isSigned = false)
    (hu : t.contains u.toNat = true) : t.ofInt u.toNat = .ok (.unsigned u) := by
  rw [IntType.ofInt, hu, ht, Int.toNat_natCast, UInt64.ofNat_toNat]
  rfl

/-- **A key comes back as it was.** -/
theorem ofValue_key (hT : T.IsKey) (h : HasType T a) : T.ofValue a.toValue = .ok a := by
  cases h with
  | signed ht hi => exact ofInt_toInt ht hi
  | unsigned ht hu => exact ofInt_toNat ht hu
  | char | text => rfl
  | _ => cases hT

/-- Different keys are converted to different values. -/
lemma toValue_inj_key (hT : T.IsKey) (ha : HasType T a) (hb : HasType T b)
    (h : a.toValue = b.toValue) : a = b :=
  Except.ok.inj ((ha.ofValue_key hT).symm.trans (h ▸ hb.ofValue_key hT))

/-- **Keys are equal if they are the same.** -/
theorem same_key_iff (hT : T.IsKey) (ha : HasType T a) (hb : HasType T b) :
    T.same a b = true ↔ a = b := by
  cases hT <;> cases ha <;> cases hb <;> simp_all [ValueType.same]

/-- Only keys that are the same are tied. -/
lemma eq_of_compare_key (hT : T.IsKey) (ha : HasType T a) (hb : HasType T b)
    (h : a.compare b = .eq) : a = b := by
  obtain ⟨s, hs⟩ := exists_scalar hT ha
  obtain ⟨t, ht⟩ := exists_scalar hT hb
  refine toValue_inj_key hT ha hb ?_
  rw [Typed.compare, hs, ht] at h
  rw [hs, ht, Scalar.eq_of_compare h]

end HasType

/-! ## Putting things in order -/

/-- The order of typed values is a total preorder. -/
instance transCmp_compare : TransCmp Typed.compare :=
  Order.transCmp_of_fits (fun a b => OrientedCmp.eq_swap (a := a.toValue) (b := b.toValue))
    fun _ _ _ => Order.fits_of_transCmp Value.compare _ _ _

section

variable {α : Type} {key : α → Typed} {a : α} {things arranged : List α}

/-- Nothing but the thing itself is added. -/
lemma mem_of_mem_insertBy {b : α} (h : b ∈ insertBy key a arranged) : b = a ∨ b ∈ arranged := by
  induction arranged with
  | nil => exact .inl (mem_singleton.mp h)
  | cons c cs ih =>
    unfold insertBy at h
    split at h
    case h_1 => exact mem_cons.mp h
    case h_2 => exact (mem_cons.mp h).imp_right (mem_cons_of_mem c)
    case h_3 =>
      rcases mem_cons.mp h with rfl | h
      · exact .inr mem_cons_self
      · exact (ih h).imp_right (mem_cons_of_mem c)

/-- Things stay in strict order when one is added. -/
lemma insertBy_pairwise (harranged : arranged.Pairwise fun b c => (key b).compare (key c) = .lt) :
    (insertBy key a arranged).Pairwise fun b c => (key b).compare (key c) = .lt := by
  induction arranged with
  | nil => exact pairwise_singleton _ a
  | cons b bs ih =>
    obtain ⟨hlt, hbs⟩ := pairwise_cons.mp harranged
    unfold insertBy
    split
    case h_1 hab =>
      refine pairwise_cons.mpr ⟨forall_mem_cons.mpr ⟨hab, fun c hc => ?_⟩, harranged⟩
      exact TransCmp.lt_trans hab (hlt c hc)
    case h_2 heq =>
      exact pairwise_cons.mpr ⟨fun c hc => (TransCmp.congr_left heq).trans (hlt c hc), hbs⟩
    case h_3 hab =>
      refine pairwise_cons.mpr ⟨fun c hc => ?_, ih hbs⟩
      rcases mem_of_mem_insertBy hc with rfl | hc
      · exact OrientedCmp.lt_of_gt hab
      · exact hlt c hc

/-- A thing whose key is not there yet is added, and nothing is lost. -/
lemma insertBy_perm (h : ∀ b ∈ arranged, (key a).compare (key b) ≠ .eq) :
    (insertBy key a arranged).Perm (a :: arranged) := by
  induction arranged with
  | nil => exact .refl _
  | cons b bs ih =>
    obtain ⟨hb, hbs⟩ := forall_mem_cons.mp h
    unfold insertBy
    split
    case h_1 => exact .refl _
    case h_2 heq => exact absurd heq hb
    case h_3 => exact ((ih hbs).cons b).trans (.swap a b bs)

/-- Whatever the things are, they are in strict order in the end, and nothing is added to them.

The induction is on the things that are left, for any that are in order already. -/
lemma foldl_insertBy_pairwise (things arranged : List α)
    (harranged : arranged.Pairwise fun b c => (key b).compare (key c) = .lt) :
    (things.foldl (fun bs a => insertBy key a bs) arranged).Pairwise
        (fun b c => (key b).compare (key c) = .lt) ∧
      ∀ b ∈ things.foldl (fun bs a => insertBy key a bs) arranged, b ∈ things ∨ b ∈ arranged := by
  induction things generalizing arranged with
  | nil => exact ⟨harranged, fun _ hb => .inr hb⟩
  | cons a things ih =>
    obtain ⟨hsorted, hmem⟩ := ih _ (insertBy_pairwise harranged)
    refine ⟨hsorted, fun b hb => ?_⟩
    rcases hmem b hb with hb | hb
    · exact .inl (mem_cons_of_mem a hb)
    · exact (mem_of_mem_insertBy hb).imp_left fun h : b = a => h ▸ mem_cons_self

/-- Things with different keys are all kept. -/
lemma foldl_insertBy_perm (things arranged : List α)
    (h : (things ++ arranged).Pairwise fun b c => (key b).compare (key c) ≠ .eq) :
    (things.foldl (fun bs a => insertBy key a bs) arranged).Perm (things ++ arranged) := by
  induction things generalizing arranged with
  | nil => exact .refl _
  | cons a things ih =>
    have hnew (b : α) (hb : b ∈ arranged) :=
      rel_of_pairwise_cons h (mem_append_right things hb)
    have hmiddle : (things ++ insertBy key a arranged).Perm (a :: things ++ arranged) :=
      ((insertBy_perm hnew).append_left things).trans perm_middle
    have hdistinct := (hmiddle.pairwise_iff fun {b c} hbc heq =>
      hbc (OrientedCmp.eq_comm.mp heq)).mpr h
    exact (ih _ hdistinct).trans hmiddle

/-- Things are put in strict order. -/
theorem arrangeBy_pairwise (key : α → Typed) (things : List α) :
    (arrangeBy key things).Pairwise fun b c => (key b).compare (key c) = .lt :=
  (foldl_insertBy_pairwise things [] .nil).1

/-- Nothing is added when things are put in order. -/
theorem mem_of_mem_arrangeBy (h : a ∈ arrangeBy key things) : a ∈ things :=
  ((foldl_insertBy_pairwise things [] .nil).2 a h).resolve_right not_mem_nil

/-- Things with different keys are all kept when they are put in order. -/
theorem arrangeBy_perm (h : things.Pairwise fun b c => (key b).compare (key c) ≠ .eq) :
    (arrangeBy key things).Perm things := by
  have hperm := foldl_insertBy_perm things [] (by rwa [append_nil])
  rwa [append_nil] at hperm

/-- Things that are in order stay as they are. -/
theorem arrangeBy_eq_self (h : things.Pairwise fun b c => (key b).compare (key c) = .lt) :
    arrangeBy key things = things := by
  have hne : things.Pairwise fun b c => (key b).compare (key c) ≠ .eq :=
    h.imp fun hlt heq => by
      rw [hlt] at heq
      cases heq
  exact (arrangeBy_perm hne).eq_of_pairwise
    (fun b c _ _ hbc hcb => absurd hcb (Order.asymm_ltOf.asymm _ _ hbc))
    (arrangeBy_pairwise key things) h

end

end Typed

end Beans
