import Mathlib.Tactic.Common
import Beans.Proofs.Result
import Beans.Proofs.Value.Typed

/-!
# Converting to a dynamic value and back

A typed value that is converted to a dynamic one comes back from it. What an optional type accepts is
ambiguous: nothing, an absent value, a present one, or a value as it is. But an optional value is
converted to an absent or a present value in any case, and these two are read before all else; so no
level of nested optional values is lost. Of tables without order only the order of iteration is.

## Main definitions

* `Beans.ValueType.Agree` — two values of a type are the same, up to the order of iteration.

## Main results

* `Beans.ValueType.ofValue_toValue` — a value comes back from the dynamic value for it.
-/

set_option autoImplicit false

open List

namespace Beans

/-- Two values of a type are the same but for the order of iteration of tables that have none. -/
def ValueType.Agree : ValueType → Typed → Typed → Prop
  | option item, .present a, .present b => item.Agree a b
  | wrapper _ item, a, b => item.Agree a b
  | sequence _ item, .sequence as, .sequence bs => Forall₂ (fun a b => item.Agree a b) as bs
  | set .hashed _, .set as, .set bs => as.Perm bs
  | map .hashed _ value, .map es, .map fs =>
    Order.Matched (fun e f => e.1 = f.1 ∧ value.Agree e.2 f.2) es fs
  | map .ordered _ value, .map es, .map fs =>
    Forall₂ (fun e f => e.1 = f.1 ∧ value.Agree e.2 f.2) es fs
  | grid item, .grid g, .grid g' => g.rows = g'.rows ∧ g.columns = g'.columns ∧
    Forall₂ (fun c d => c.1 = d.1 ∧ item.Agree c.2 d.2) g.cells g'.cells
  | _, a, b => a = b
termination_by structural T => T

namespace ValueType

/-- Keys come back as they were. -/
lemma mapM_keys {T : ValueType} {keys : List Typed} (hT : T.IsKey)
    (hkeys : ∀ a ∈ keys, Typed.HasType T a) :
    ((keys.map Typed.toValue).mapM fun v => T.ofValue v) = .ok keys := by
  refine mapM_eq_ok_iff.mpr (forall₂_map_left_iff.mpr (forall₂_same.mpr fun a ha => ?_))
  exact (hkeys a ha).ofValue_key hT

/-- Two keys that a table holds are not tied. -/
lemma pairwise_ne_of_holds {s : TableType} {T : ValueType} {keys : List Typed} (hT : T.IsKey)
    (hkeys : ∀ a ∈ keys, Typed.HasType T a) (h : s.Holds keys) :
    keys.Pairwise fun a b => a.compare b ≠ .eq := by
  cases s with
  | hashed =>
    refine Pairwise.imp_of_mem (fun ha hb hne heq => hne ?_) h
    exact (hkeys _ ha).eq_of_compare_key hT (hkeys _ hb) heq
  | ordered =>
    refine Pairwise.imp (fun hlt heq => ?_) h
    rw [hlt] at heq
    cases heq

/-- A value comes back from the dynamic value for it.

The induction is on the derivation of the type; the items of a set and the keys of a map are no
induction hypotheses, as they come back without any change. -/
theorem ofValue_toValue {T : ValueType} {x : Typed} (h : Typed.HasType T x) :
    ∃ y, T.ofValue x.toValue = .ok y ∧ T.Agree x y := by
  induction h with
  | signed ht hi => exact ⟨_, Typed.HasType.ofInt_toInt ht hi, rfl⟩
  | unsigned ht hu => exact ⟨_, Typed.HasType.ofInt_toNat ht hu, rfl⟩
  | double | bool | char | text | any | absent => exact ⟨_, rfl, rfl⟩
  | @single x hx =>
    refine ⟨.single x, ?_, rfl⟩
    change Except.ok (Typed.single x.widen.narrow) = _
    rw [Number.Binary32.narrow_widen hx]
  | @present T a ha ih =>
    obtain ⟨y, hy, hagree⟩ := ih
    refine ⟨.present y, ?_, hagree⟩
    change (T.ofValue a.toValue).map Typed.present = _
    rw [hy]
    rfl
  | @wrapper T a w ha ih =>
    obtain ⟨y, hy, hagree⟩ := ih
    exact ⟨y, hy, hagree⟩
  | @sequence T items s hitems ih =>
    obtain ⟨ys, hys⟩ := Order.exists_forall₂ ih
    refine ⟨.sequence ys, ?_, hys.imp fun _ _ h => h.2⟩
    have hmap : ((items.map Typed.toValue).mapM fun v => T.ofValue v) = .ok ys :=
      mapM_eq_ok_iff.mpr (forall₂_map_left_iff.mpr (hys.imp fun _ _ h => h.1))
    rw [Typed.toValue_sequence, ofValue, hmap]
    rfl
  | @set T items s hT hitems hholds ih =>
    have hdistinct := pairwise_ne_of_holds hT hitems hholds
    refine ⟨.ofItems items, ?_, ?_⟩
    · rw [Typed.toValue_set, ofValue, mapM_keys hT hitems]
      rfl
    · cases s with
      | hashed => exact (Typed.arrangeBy_perm hdistinct).symm
      | ordered => exact congrArg Typed.set (Typed.arrangeBy_eq_self hholds).symm
  | @map K V entries s hK hkeys hvalues hholds _ ih =>
    have hdistinct := pairwise_ne_of_holds hK (forall_mem_map.mpr hkeys) hholds
    obtain ⟨fs, hfs⟩ : ∃ fs : List (Typed × Typed), Forall₂ (fun e f => e.1 = f.1 ∧
        V.ofValue e.2.toValue = .ok f.2 ∧ V.Agree e.2 f.2) entries fs :=
      Order.exists_forall₂ fun e he => by
        obtain ⟨y, hy, hagree⟩ := ih e he
        exact ⟨(e.1, y), rfl, hy, hagree⟩
    have hmap : ((entries.map fun e => (e.1.toValue, e.2.toValue)).mapM fun e => do
        return (← K.ofValue e.1, ← V.ofValue e.2)) = .ok fs := by
      refine mapM_eq_ok_iff.mpr (forall₂_map_left_iff.mpr ?_)
      refine Order.forall₂_imp_of_mem hfs fun e he f _ hef => ?_
      rw [(hkeys e he).ofValue_key hK, hef.1, hef.2.1]
      rfl
    have hsame : entries.map Prod.fst = fs.map Prod.fst :=
      Order.map_eq_of_forall₂ (hfs.imp fun _ _ h => h.1)
    have hagree := hfs.imp fun _ _ h => (⟨h.1, h.2.2⟩ : _ ∧ _)
    refine ⟨.ofEntries fs, ?_, ?_⟩
    · rw [Typed.toValue_map, ofValue, hmap]
      rfl
    · cases s with
      | hashed =>
        exact ⟨fs, (Typed.arrangeBy_perm (pairwise_map.mp (hsame ▸ hdistinct))).symm, hagree⟩
      | ordered =>
        change Forall₂ _ entries (Typed.arrangeBy Prod.fst fs)
        rw [Typed.arrangeBy_eq_self (pairwise_map.mp (hsame ▸ hholds))]
        exact hagree
  | @grid T g hcells ih =>
    obtain ⟨rows, columns, cells⟩ := g
    obtain ⟨ds, hds⟩ : ∃ ds : List ((Nat × Nat) × Typed), Forall₂ (fun c d => c.1 = d.1 ∧
        T.ofValue c.2.toValue = .ok d.2 ∧ T.Agree c.2 d.2) cells ds :=
      Order.exists_forall₂ fun c hc => by
        obtain ⟨y, hy, hagree⟩ := ih c hc
        exact ⟨(c.1, y), rfl, hy, hagree⟩
    refine ⟨.grid ⟨rows, columns, ds⟩, ?_, rfl, rfl, hds.imp fun _ _ h => ⟨h.1, h.2.2⟩⟩
    have hmap : ((cells.map fun c => (c.1, c.2.toValue)).mapM fun c =>
        (T.ofValue c.2).map fun t => (c.1, t)) = .ok ds := by
      refine mapM_eq_ok_iff.mpr (forall₂_map_left_iff.mpr (hds.imp fun c d hcd => ?_))
      rw [hcd.2.1, hcd.1]
      rfl
    rw [Typed.toValue_grid, ofValue, Grid.map, hmap]
    rfl
  | @bean t b hb =>
    refine ⟨.bean b, ?_, rfl⟩
    change (if b.type.same t then Except.ok (Typed.bean b) else _) = _
    rw [if_pos hb]

/-- A nested optional value that agrees with another is absent at the same level. -/
lemma absent_iff_of_agree {T : ValueType} {x y : Typed} (hx : Typed.HasType (.option (.option T)) x)
    (h : Agree (.option (.option T)) x y) :
    (x = .absent ↔ y = .absent) ∧ (x = .present .absent ↔ y = .present .absent) := by
  cases hx with
  | absent =>
    obtain rfl : Typed.absent = y := h
    simp
  | present ha =>
    cases y with
    | present b =>
      cases ha with
      | absent =>
        obtain rfl : Typed.absent = b := h
        simp
      | present ha =>
        cases b with
        | present b => simp
        | _ => cases h
    | _ => cases h

/-- **Converting to a dynamic value and back.** A value of a type comes back from the dynamic value
for it, up to the order of iteration of tables that have none. Nested optional values come back
absent at the same level. -/
theorem roundTrip {T : ValueType} {x : Typed} (h : Typed.HasType T x) :
    (∃ y, T.ofValue x.toValue = .ok y ∧ T.Agree x y) ∧
      ∀ U, T = .option (.option U) → ∀ y, T.ofValue x.toValue = .ok y →
        (x = .absent ↔ y = .absent) ∧ (x = .present .absent ↔ y = .present .absent) := by
  refine ⟨ofValue_toValue h, ?_⟩
  rintro U rfl y hy
  obtain ⟨z, hz, hagree⟩ := ofValue_toValue h
  obtain rfl : z = y := Except.ok.inj (hz.symm.trans hy)
  exact absent_iff_of_agree h hagree

/-- A present value of an optional type in another one, with tables of both kinds in it. -/
theorem roundTrip_nested :
    let T : ValueType :=
      .option (.option (.map .hashed .text (.set .ordered (.int .u8))))
    let x : Typed := .present (.present (.map [(.text "b", .set [.unsigned 1, .unsigned 255]),
      (.text "a", .set [])]))
    Typed.HasType T x ∧ (∃ y, T.ofValue x.toValue = .ok y ∧ T.Agree x y) := by
  intro T x
  have hset : ∀ items : List Typed, items = [.unsigned 1, .unsigned 255] ∨ items = [] →
      Typed.HasType (.set .ordered (.int .u8)) (.set items) := by
    rintro items (rfl | rfl)
    · refine .set (.int .u8) ?_ (pairwise_pair.mpr ?_)
      · simpa using ⟨.unsigned rfl (by decide), .unsigned rfl (by decide)⟩
      · decide +kernel
    · exact .set (.int .u8) (forall_mem_nil _) .nil
  have hx : Typed.HasType T x := by
    refine .present (.present (.map .text ?_ ?_ ?_))
    · simpa using ⟨.text "b", .text "a"⟩
    · simpa using ⟨hset _ (.inl rfl), hset _ (.inr rfl)⟩
    · change [Typed.text "b", Typed.text "a"].Nodup
      simp
  exact ⟨hx, (roundTrip hx).1⟩

end ValueType

end Beans
