import Mathlib.Tactic.Common
import Beans.Proofs.Value.RoundTrip

/-!
# Converted values

What a conversion yields is a value of the type, whatever it was made from; and it is converted to
itself. For the latter the type must not hold tables without order, whose order of iteration is not
kept.

## Main definitions

* `Beans.ValueType.isStrict` — all tables in the type have an order, and keys that are scalars.

## Main results

* `Beans.ValueType.hasType_of_ofValue` — what a conversion yields is of the type.
* `Beans.ValueType.ofValue_toValue_eq` — what is of the type is converted to itself.

## Implementation notes

What a conversion looks at is said once for every kind of types (`ofValue_sequence` and the like);
inductions on types use these lemmas and not the definition.
-/

set_option autoImplicit false

open List

namespace Beans

/-! ## What conversions look at -/

/-- What is made from an integer is of its type. -/
lemma IntType.hasType_of_ofInt {t : IntType} {i : Int} {x : Typed} (h : t.ofInt i = .ok x) :
    Typed.HasType (.int t) x := by
  unfold IntType.ofInt at h
  cases hcontains : t.contains i with
  | false => simp [hcontains] at h
  | true =>
    have hrange := hcontains
    unfold IntType.contains at hrange
    cases hsigned : t.isSigned with
    | true =>
      have hbound : Nat.pow 2 (t.width - 1) ≤ 2 ^ 63 := by cases t <;> decide
      simp only [hsigned, if_true, decide_eq_true_eq] at hrange
      obtain rfl : Typed.signed (.ofInt i) = x := by simpa [hcontains, hsigned] using h
      refine .signed hsigned ?_
      rwa [Int64.toInt_ofInt_of_le (by omega) (by omega)]
    | false =>
      have hbound : Nat.pow 2 t.width ≤ 2 ^ 64 := by cases t <;> decide
      simp only [hsigned, Bool.false_eq_true, if_false, decide_eq_true_eq] at hrange
      obtain rfl : Typed.unsigned (.ofNat i.toNat) = x := by simpa [hcontains, hsigned] using h
      refine .unsigned hsigned ?_
      rw [UInt64.toNat_ofNat', Nat.mod_eq_of_lt (by omega), Int.toNat_of_nonneg hrange.1]
      exact hcontains

namespace ValueType

section

variable {T K V : ValueType} {v : Value} {x : Typed}

/-- An optional type looks at what is inside of an optional value, or at the value as it is. -/
lemma ofValue_option (h : (option T).ofValue v = .ok x) :
    x = .absent ∨
      ∃ w y, (w = v ∨ v = .optional (some w)) ∧ T.ofValue w = .ok y ∧ x = .present y := by
  have hself (h : (T.ofValue v).map Typed.present = .ok x) :
      ∃ w y, (w = v ∨ v = .optional (some w)) ∧ T.ofValue w = .ok y ∧ x = .present y := by
    obtain ⟨y, hy, rfl⟩ := map_eq_ok_iff.mp h
    exact ⟨v, y, .inl rfl, hy, rfl⟩
  cases v with
  | optional item =>
    cases item with
    | none => exact .inl (Except.ok.inj h).symm
    | some w =>
      obtain ⟨y, hy, rfl⟩ := map_eq_ok_iff.mp h
      exact .inr ⟨w, y, .inr rfl, hy, rfl⟩
  | scalar s =>
    cases s with
    | null => exact .inl (Except.ok.inj h).symm
    | _ => exact .inr (hself h)
  | _ => exact .inr (hself h)

/-- The items of a sequence are converted one by one. -/
lemma ofValue_sequence {s : SequenceType} (h : (sequence s T).ofValue v = .ok x) :
    ∃ items xs, (v = .list items ∨ v = .set items) ∧
      Forall₂ (fun w y => T.ofValue w = .ok y) items xs ∧ x = .sequence xs := by
  cases v with
  | list items =>
    obtain ⟨xs, hxs, rfl⟩ := map_eq_ok_iff.mp h
    exact ⟨items, xs, .inl rfl, mapM_eq_ok_iff.mp hxs, rfl⟩
  | set items =>
    obtain ⟨xs, hxs, rfl⟩ := map_eq_ok_iff.mp h
    exact ⟨items, xs, .inr rfl, mapM_eq_ok_iff.mp hxs, rfl⟩
  | _ => cases h

/-- The items of a set are converted one by one, and put in order. -/
lemma ofValue_set {s : TableType} (h : (set s T).ofValue v = .ok x) :
    ∃ items xs, (v = .list items ∨ v = .set items) ∧
      Forall₂ (fun w y => T.ofValue w = .ok y) items xs ∧ x = .ofItems xs := by
  cases v with
  | list items =>
    obtain ⟨xs, hxs, rfl⟩ := map_eq_ok_iff.mp h
    exact ⟨items, xs, .inl rfl, mapM_eq_ok_iff.mp hxs, rfl⟩
  | set items =>
    obtain ⟨xs, hxs, rfl⟩ := map_eq_ok_iff.mp h
    exact ⟨items, xs, .inr rfl, mapM_eq_ok_iff.mp hxs, rfl⟩
  | _ => cases h

/-- The entries of a map are converted one by one, and put in order. -/
lemma ofValue_map {s : TableType} (h : (map s K V).ofValue v = .ok x) :
    ∃ entries es, v = .map entries ∧
      Forall₂ (fun e f => K.ofValue e.1 = .ok f.1 ∧ V.ofValue e.2 = .ok f.2) entries es ∧
        x = .ofEntries es := by
  cases v with
  | map entries =>
    obtain ⟨es, hes, rfl⟩ := map_eq_ok_iff.mp h
    refine ⟨entries, es, rfl, (mapM_eq_ok_iff.mp hes).imp fun e f hef => ?_, rfl⟩
    simp only [bind_eq_ok_iff] at hef
    obtain ⟨k, hk, w, hw, hf⟩ := hef
    cases hf
    exact ⟨hk, hw⟩
  | _ => cases h

/-- The cells of a grid are converted one by one. -/
lemma ofValue_grid (h : (grid T).ofValue v = .ok x) :
    ∃ i g cells, v = .grid i g ∧
      Forall₂ (fun c d => c.1 = d.1 ∧ T.ofValue c.2 = .ok d.2) g.cells cells ∧
        x = .grid ⟨g.rows, g.columns, cells⟩ := by
  cases v with
  | grid i g =>
    obtain ⟨cells, hcells, rfl⟩ := map_eq_ok_iff.mp h
    refine ⟨i, g, cells, rfl, (mapM_eq_ok_iff.mp hcells).imp fun c d hcd => ?_, rfl⟩
    obtain ⟨t, ht, rfl⟩ := map_eq_ok_iff.mp hcd
    exact ⟨rfl, ht⟩
  | _ => cases h

/-- A bean type takes the beans of the type. -/
lemma ofValue_bean {t : BeanType} (h : (bean t).ofValue v = .ok x) :
    ∃ b : Bean, v = .bean b ∧ b.type.same t = true ∧ x = .bean b := by
  cases v with
  | bean b =>
    change (if b.type.same t then _ else _) = _ at h
    split at h
    case isTrue hsame => exact ⟨b, rfl, hsame, (Except.ok.inj h).symm⟩
    case isFalse => cases h
  | _ => cases h

end

/-! ## Strict types -/

/-- Whether the values are integers, characters or texts. -/
def isKey : ValueType → Bool
  | int _ | char | text => true
  | double | single | bool | any | option _ | wrapper .. | sequence .. | set .. | map .. | grid _
  | bean _ => false

/-- Whether all tables in the type have an order, and keys that are scalars. -/
def isStrict : ValueType → Bool
  | option item => item.isStrict
  | wrapper _ item => item.isStrict
  | sequence _ item => item.isStrict
  | set s item => decide (s = .ordered) && item.isKey
  | map s key value => decide (s = .ordered) && key.isKey && value.isStrict
  | grid item => item.isStrict
  | int _ | double | single | bool | char | text | any | bean _ => true

lemma isKey_iff {T : ValueType} : T.isKey = true ↔ T.IsKey := by
  constructor
  · intro h
    cases T <;> first | exact .int _ | exact .char | exact .text | cases h
  · rintro (_ | _ | _) <;> rfl

/-- **What a conversion yields is of the type.**

**Proof sketch.** Induction on the type. A scalar type takes some kinds of scalars only. For a type
with parts, each part of the result is the image of a part; sets and maps put them in order. -/
theorem hasType_of_ofValue {T : ValueType} (hT : T.isStrict = true) {v : Value} {x : Typed}
    (h : T.ofValue v = .ok x) : Typed.HasType T x := by
  induction T generalizing v x with
  | int t =>
    cases v with
    | scalar s =>
      cases s with
      | int i => exact IntType.hasType_of_ofInt h
      | uint u => exact IntType.hasType_of_ofInt h
      | _ => cases h
    | _ => cases h
  | double =>
    cases v with
    | scalar s =>
      cases s with
      | float y =>
        cases h
        exact .double _
      | int i =>
        cases h
        exact .double _
      | uint u =>
        cases h
        exact .double _
      | _ => cases h
    | _ => cases h
  | single =>
    cases v with
    | scalar s =>
      cases s with
      | float y =>
        cases h
        exact .single y.not_isSignaling_narrow
      | int i =>
        cases h
        exact .single (Number.Binary32.not_isSignaling_ofInt _)
      | uint u =>
        cases h
        exact .single (Number.Binary32.not_isSignaling_ofInt _)
      | _ => cases h
    | _ => cases h
  | bool =>
    cases v with
    | scalar s =>
      cases s with
      | bool b =>
        cases h
        exact .bool b
      | _ => cases h
    | _ => cases h
  | char =>
    cases v with
    | scalar s =>
      cases s with
      | char c =>
        cases h
        exact .char c
      | _ => cases h
    | _ => cases h
  | text =>
    cases v with
    | scalar s =>
      cases s with
      | text t =>
        cases h
        exact .text t
      | _ => cases h
    | _ => cases h
  | any =>
    cases h
    exact .any v
  | option T ih =>
    obtain rfl | ⟨w, y, -, hy, rfl⟩ := ofValue_option h
    · exact .absent T
    · exact .present (ih hT hy)
  | wrapper w T ih => exact .wrapper w (ih hT h)
  | sequence s T ih =>
    obtain ⟨items, xs, -, hxs, rfl⟩ := ofValue_sequence h
    refine .sequence s fun y hy => ?_
    obtain ⟨w, -, hw⟩ := Order.exists_of_forall₂ hxs.flip hy
    exact ih hT hw
  | set s T ih =>
    obtain ⟨hs, hkey⟩ := Bool.and_eq_true_iff.mp hT
    obtain rfl := of_decide_eq_true hs
    obtain ⟨items, xs, -, hxs, rfl⟩ := ofValue_set h
    refine .set (isKey_iff.mp hkey) (fun y hy => ?_) (Typed.arrangeBy_pairwise id xs)
    obtain ⟨w, -, hw⟩ := Order.exists_of_forall₂ hxs.flip (Typed.mem_of_mem_arrangeBy hy)
    exact ih (by cases isKey_iff.mp hkey <;> rfl) hw
  | map s K V ihk ihv =>
    obtain ⟨hs, hV⟩ := Bool.and_eq_true_iff.mp hT
    obtain ⟨hs, hkey⟩ := Bool.and_eq_true_iff.mp hs
    obtain rfl := of_decide_eq_true hs
    obtain ⟨entries, es, -, hes, rfl⟩ := ofValue_map h
    refine .map (isKey_iff.mp hkey) (fun f hf => ?_) (fun f hf => ?_)
      (pairwise_map.mpr (Typed.arrangeBy_pairwise Prod.fst es))
    all_goals obtain ⟨e, -, he⟩ := Order.exists_of_forall₂ hes.flip (Typed.mem_of_mem_arrangeBy hf)
    · exact ihk (by cases isKey_iff.mp hkey <;> rfl) he.1
    · exact ihv hV he.2
  | grid T ih =>
    obtain ⟨i, g, cells, -, hcells, rfl⟩ := ofValue_grid h
    refine .grid fun d hd => ?_
    obtain ⟨c, -, hcd⟩ := Order.exists_of_forall₂ hcells.flip hd
    exact ih hT hcd.2
  | bean t =>
    obtain ⟨b, -, hb, rfl⟩ := ofValue_bean h
    exact .bean hb

/-- In a strict type, values that are the same up to the order of iteration are the same.

**Proof sketch.** Induction on the type. The tables of a strict type are ordered, so that the items
of both stand in the same order. -/
lemma eq_of_agree {T : ValueType} (hT : T.isStrict = true) {x y : Typed} (h : T.Agree x y) :
    x = y := by
  induction T generalizing x y with
  | option T ih =>
    cases x with
    | present a =>
      cases y with
      | present b => rw [ih hT h]
      | _ => exact h
    | _ => exact h
  | wrapper w T ih => exact ih hT h
  | sequence s T ih =>
    cases x with
    | sequence as =>
      cases y with
      | sequence bs =>
        rw [Order.eq_of_forall₂ h fun _ _ => ih hT]
      | _ => exact h
    | _ => exact h
  | set s T ih =>
    obtain rfl := of_decide_eq_true (Bool.and_eq_true_iff.mp hT).1
    exact h
  | map s K V _ ih =>
    obtain ⟨hs, hV⟩ := Bool.and_eq_true_iff.mp hT
    obtain rfl := of_decide_eq_true (Bool.and_eq_true_iff.mp hs).1
    cases x with
    | map es =>
      cases y with
      | map fs =>
        rw [Order.eq_of_forall₂ h fun e f hef => Prod.ext hef.1 (ih hV hef.2)]
      | _ => exact h
    | _ => exact h
  | grid T ih =>
    cases x with
    | grid g =>
      cases y with
      | grid g' =>
        obtain ⟨rows, columns, cs⟩ := g
        obtain ⟨rows', columns', ds⟩ := g'
        obtain ⟨rfl, rfl, hcells⟩ := h
        have hsame : cs = ds :=
          Order.eq_of_forall₂ hcells fun c d hcd => Prod.ext hcd.1 (ih hT hcd.2)
        rw [hsame]
      | _ => exact h
    | _ => exact h
  | _ => exact h

/-- **What is of a type is converted to itself.** -/
theorem ofValue_toValue_eq {T : ValueType} (hT : T.isStrict = true) {x : Typed}
    (h : Typed.HasType T x) : T.ofValue x.toValue = .ok x := by
  obtain ⟨y, hy, hagree⟩ := ofValue_toValue h
  rw [hy, eq_of_agree hT hagree]

end ValueType

end Beans
