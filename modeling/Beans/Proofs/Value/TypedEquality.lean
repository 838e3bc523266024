import Mathlib.Tactic.Common
import Beans.Proofs.Value.Equality
import Beans.Proofs.Value.Typed
import Beans.Proofs.Value.Unordered

/-!
# Typed equality agrees with dynamic equality

Values of a type are compared without converting them: tables without order by lookup, those with an
order side by side, each by the equality of the type of its items. The dynamic values for them are
compared after sorting. All three match the items of two tables in some order, as keys are told apart
by each of them.

## Main results

* `Beans.ValueType.same_set_iff_matched`, `Beans.ValueType.same_map_iff_matched` — typed tables are
  equal if their items are matched.
* `Beans.Value.same_set_iff_matched`, `Beans.Value.same_map_iff_matched` — so are dynamic ones.
* `Beans.ValueType.typed_equality` — the two equalities agree, and equal values have the same bytes.
-/

set_option autoImplicit false

open List

namespace Beans

open Beans.Order Digest

/-! ## Tables of values of a type -/

namespace ValueType

variable {T K V : ValueType} {s : TableType}

/-- Two sets are equal if their items are matched. -/
theorem same_set_iff_matched {as bs : List Typed} (hT : T.IsKey)
    (has : ∀ a ∈ as, Typed.HasType T a) (hbs : ∀ b ∈ bs, Typed.HasType T b) (hholds : s.Holds as)
    (hholds' : s.Holds bs) :
    (set s T).same (.set as) (.set bs) = true ↔ Matched (fun a b => T.same a b = true) as bs := by
  have hR : ∀ a ∈ as, ∀ b ∈ bs, T.same a b = true → id a = id b := fun a ha b hb =>
    ((has a ha).same_key_iff hT (hbs b hb)).mp
  cases s with
  | hashed =>
    have hnodup : (as.map id).Nodup := by
      rw [map_id]
      exact hholds
    rw [matched_iff_exists hnodup hR]
    simp [same]
  | ordered =>
    have hsorted : (as.map id).Pairwise (ltOf Typed.compare) := pairwise_map.mpr hholds
    have hsorted' : (bs.map id).Pairwise (ltOf Typed.compare) := pairwise_map.mpr hholds'
    rw [matched_iff_forall₂ hsorted hsorted' hR]
    exact length_zip_iff

/-- Two maps with an order are equal if they are entry by entry. -/
lemma same_orderedMap_iff {es fs : List (Typed × Typed)} :
    (map .ordered K V).same (.map es) (.map fs) = true ↔
      Forall₂ (fun e f => K.same e.1 f.1 = true ∧ V.same e.2 f.2 = true) es fs := by
  have hzip : (map .ordered K V).same (.map es) (.map fs) = true ↔
      Forall₂ (fun e f => (K.same e.1 f.1 && V.same e.2 f.2) = true) es fs :=
    length_zip_iff (p := fun (e f : Typed × Typed) => K.same e.1 f.1 && V.same e.2 f.2)
  rw [hzip]
  exact forall₂_congr_of_mem fun _ _ _ _ => Bool.and_eq_true_iff

/-- Two maps are equal if their entries are matched. -/
theorem same_map_iff_matched {es fs : List (Typed × Typed)} (hK : K.IsKey)
    (hes : ∀ e ∈ es, Typed.HasType K e.1) (hfs : ∀ f ∈ fs, Typed.HasType K f.1)
    (hholds : s.Holds (es.map Prod.fst)) (hholds' : s.Holds (fs.map Prod.fst)) :
    (map s K V).same (.map es) (.map fs) = true ↔
      Matched (fun e f => K.same e.1 f.1 = true ∧ V.same e.2 f.2 = true) es fs := by
  have hkey : ∀ e ∈ es, ∀ f ∈ fs, K.same e.1 f.1 = true ↔ e.1 = f.1 := fun e he f hf =>
    (hes e he).same_key_iff hK (hfs f hf)
  have hR : ∀ e ∈ es, ∀ f ∈ fs, K.same e.1 f.1 = true ∧ V.same e.2 f.2 = true → e.1 = f.1 :=
    fun e he f hf h => (hkey e he f hf).mp h.1
  cases s with
  | hashed =>
    rw [matched_iff_exists hholds hR, same, Bool.and_eq_true, beq_iff_eq, all_eq_true]
    refine and_congr_right fun _ => forall₂_congr fun e he => ?_
    -- the first entry with the key is the only one
    have hfound {f : Typed × Typed} (h : fs.find? (fun f => K.same e.1 f.1) = some f) :
        K.same e.1 f.1 = true := by simpa using find?_some h
    rw [Option.any_eq_true]
    constructor
    · rintro ⟨f, hf, hvalue⟩
      exact ⟨f, mem_of_find?_eq_some hf, hfound hf, hvalue⟩
    · rintro ⟨f, hf, hsame, hvalue⟩
      have hsome : (fs.find? fun f => K.same e.1 f.1).isSome = true :=
        find?_isSome.mpr ⟨f, hf, hsame⟩
      obtain ⟨g, hg⟩ := Option.isSome_iff_exists.mp hsome
      have hmem := mem_of_find?_eq_some hg
      have hfst : g.1 = f.1 :=
        ((hkey e he g hmem).mp (hfound hg)).symm.trans ((hkey e he f hf).mp hsame)
      obtain rfl := inj_on_of_nodup_map hholds' hmem hf hfst
      exact ⟨g, hg, hvalue⟩
  | ordered =>
    have hsorted : (es.map Prod.fst).Pairwise (ltOf Typed.compare) := hholds
    have hsorted' : (fs.map Prod.fst).Pairwise (ltOf Typed.compare) := hholds'
    rw [matched_iff_forall₂ hsorted hsorted' hR]
    exact same_orderedMap_iff

/-- Two sequences are equal if they are item by item. -/
lemma same_sequence_iff {s : SequenceType} {as bs : List Typed} :
    (sequence s T).same (.sequence as) (.sequence bs) = true ↔
      Forall₂ (fun a b => T.same a b = true) as bs :=
  length_zip_iff

/-- Two grids are equal if they are of one shape and equal cell by cell. -/
lemma same_grid_iff {g g' : Grid Typed} :
    (grid T).same (.grid g) (.grid g') = true ↔ g.rows = g'.rows ∧ g.columns = g'.columns ∧
      Forall₂ (fun c d => c.1 = d.1 ∧ T.same c.2 d.2 = true) g.cells g'.cells := by
  have hzip : _ ↔ Forall₂ _ g.cells g'.cells :=
    length_zip_iff (p := fun (c d : (Nat × Nat) × Typed) => c.1 == d.1 && T.same c.2 d.2)
  change (g.rows == g'.rows && g.columns == g'.columns && g.cells.length == g'.cells.length && _) =
    true ↔ _
  rw [Bool.and_assoc, Bool.and_assoc, Bool.and_eq_true, Bool.and_eq_true, hzip, beq_iff_eq,
    beq_iff_eq]
  simp only [Bool.and_eq_true, beq_iff_eq]

/-- Equal tables of items have the same bytes if equal items have. The bytes of a hashed table depend
on no order, and an ordered one is compared side by side. -/
lemma feed_set_eq {as bs : List Typed} (h : (set s T).same (.set as) (.set bs) = true)
    (hmatched : Matched (fun a b => T.same a b = true) as bs)
    (hfeed : ∀ a ∈ as, ∀ b ∈ bs, T.same a b = true → T.feed a = T.feed b) :
    (set s T).feed (.set as) = (set s T).feed (.set bs) := by
  cases s with
  | hashed => exact congrArg ofWord (Observation.unordered_perm (hmatched.map_perm hfeed))
  | ordered =>
    have hside : Forall₂ (fun a b => T.same a b = true) as bs := length_zip_iff.mp h
    exact congrArg ofSequence (map_eq_of_forall₂ (forall₂_imp_of_mem hside hfeed))

/-- The same for tables of entries. -/
lemma feed_map_eq {es fs : List (Typed × Typed)} (h : (map s K V).same (.map es) (.map fs) = true)
    (hmatched : Matched (fun e f => K.same e.1 f.1 = true ∧ V.same e.2 f.2 = true) es fs)
    (hfeed : ∀ e ∈ es, ∀ f ∈ fs, K.same e.1 f.1 = true ∧ V.same e.2 f.2 = true →
      K.feed e.1 = K.feed f.1 ∧ V.feed e.2 = V.feed f.2) :
    (map s K V).feed (.map es) = (map s K V).feed (.map fs) := by
  cases s with
  | hashed =>
    let term (e : Typed × Typed) : UInt64 :=
      Digest.digest (K.feed e.1) ^^^ turnLeft (Digest.digest (V.feed e.2)) 1
    have hsum (es : List (Typed × Typed)) : (map .hashed K V).feed (.map es) =
        ofWord ((es.map term).foldl (· + ·) 0) := congrArg ofWord foldl_map.symm
    have hperm : (es.map term).Perm (fs.map term) := hmatched.map_perm fun e he f hf hef => by
      simp only [term, hfeed e he f hf hef]
    rw [hsum, hsum, hperm.foldl_op_eq]
  | ordered =>
    refine congrArg ofSequence (map_eq_of_forall₂ ?_)
    refine forall₂_imp_of_mem (same_orderedMap_iff.mp h) fun e he f hf hef => ?_
    rw [(hfeed e he f hf hef).1, (hfeed e he f hf hef).2]

end ValueType

/-! ## Tables of dynamic values -/

namespace Value

/-- Equal scalars are the same. -/
lemma eq_of_same_scalar {v w : Value} (hv : ∃ s, v = .scalar s) (hw : ∃ t, w = .scalar t)
    (h : v.same w = true) : v = w := by
  obtain ⟨s, rfl⟩ := hv
  obtain ⟨t, rfl⟩ := hw
  rw [of_decide_eq_true h]

/-- Different scalars in order are in strict order. -/
lemma ltOf_of_scalar {v w : Value} (hv : ∃ s, v = .scalar s) (hw : ∃ t, w = .scalar t)
    (hle : (v.compare w).isLE = true) (hne : v ≠ w) : ltOf Value.compare v w := by
  refine (Ordering.isLE_iff_eq_lt_or_eq_eq.mp hle).resolve_right fun heq => hne ?_
  obtain ⟨s, rfl⟩ := hv
  obtain ⟨t, rfl⟩ := hw
  rw [Scalar.eq_of_compare heq]

/-- Things with different scalars as keys are matched if they are related side by side after sorting
by key. -/
lemma forall₂_sort_iff_matched {α : Type} {cmp : α → α → Ordering} [Std.TransCmp cmp]
    {key : α → Value} {R : α → α → Prop} {as bs : List α}
    (hcmp : ∀ a b, (cmp a b).isLE = true → ((key a).compare (key b)).isLE = true)
    (has : ∀ a ∈ as, ∃ s, key a = .scalar s) (hbs : ∀ b ∈ bs, ∃ s, key b = .scalar s)
    (hnodup : (as.map key).Nodup) (hnodup' : (bs.map key).Nodup)
    (hR : ∀ a ∈ as, ∀ b ∈ bs, R a b → (key a).same (key b) = true) :
    Forall₂ R (sortBy (leOf cmp) as) (sortBy (leOf cmp) bs) ↔ Matched R as bs := by
  have hlt (a b : α) (hmem : a ∈ as ∧ b ∈ as ∨ a ∈ bs ∧ b ∈ bs) (hle : leOf cmp a b = true)
      (hne : key a ≠ key b) : ltOf Value.compare (key a) (key b) := by
    have hle := hcmp a b (leOf_iff.mp hle)
    rcases hmem with ⟨ha, hb⟩ | ⟨ha, hb⟩
    · exact ltOf_of_scalar (has a ha) (has b hb) hle hne
    · exact ltOf_of_scalar (hbs a ha) (hbs b hb) hle hne
  exact forall₂_sortBy_iff_matched hnodup hnodup' hlt fun a ha b hb hab =>
    eq_of_same_scalar (has a ha) (hbs b hb) (hR a ha b hb hab)

/-- Two sets of different scalars are equal if their items are matched. -/
theorem same_set_iff_matched {xs ys : List Value} (hxs : ∀ x ∈ xs, ∃ s, x = .scalar s)
    (hys : ∀ y ∈ ys, ∃ s, y = .scalar s) (hnodup : xs.Nodup) (hnodup' : ys.Nodup) :
    (set xs).same (set ys) = true ↔ Matched (fun x y => x.same y = true) xs ys := by
  rw [← map_id xs] at hnodup
  rw [← map_id ys] at hnodup'
  rw [same_set_iff]
  exact forall₂_sort_iff_matched (fun _ _ => id) hxs hys hnodup hnodup' fun _ _ _ _ => id

/-- Two maps with different scalars as keys are equal if their entries are matched. -/
theorem same_map_iff_matched {es fs : List (Value × Value)}
    (hes : ∀ e ∈ es, ∃ s, e.1 = .scalar s) (hfs : ∀ f ∈ fs, ∃ s, f.1 = .scalar s)
    (hnodup : (es.map Prod.fst).Nodup) (hnodup' : (fs.map Prod.fst).Nodup) :
    (map es).same (map fs) = true ↔
      Matched (fun e f => e.1.same f.1 = true ∧ e.2.same f.2 = true) es fs := by
  rw [same_map_iff]
  refine forall₂_sort_iff_matched (fun e f hle => ?_) hes hfs hnodup hnodup' fun _ _ _ _ h => h.1
  rw [compareEntry, Ordering.isLE_then_iff_and] at hle
  exact hle.1

/-- Two grids that are made to show a value are equal if they are of one shape and equal cell by
cell. -/
lemma same_grid_iff {g g' : Grid Value} :
    (grid .made g).same (grid .made g') = true ↔ g.rows = g'.rows ∧ g.columns = g'.columns ∧
      Forall₂ (fun c d => c.1 = d.1 ∧ c.2.same d.2 = true) g.cells g'.cells := by
  rw [Value.same, observe_grid, observe_grid]
  change (false || (g.rows == g'.rows && g.columns == g'.columns &&
    Observation.sameCells (g.map observe).cells (g'.map observe).cells)) = true ↔ _
  rw [Bool.false_or, Bool.and_assoc, Bool.and_eq_true, Bool.and_eq_true, Observation.sameCells_iff,
    beq_iff_eq, beq_iff_eq, Grid.map, Grid.map, forall₂_map_left_iff, forall₂_map_right_iff]
  rfl

end Value

/-! ## The two equalities -/

namespace Typed.HasType

variable {T K : ValueType} {s : TableType}

/-- A table holds no key twice. -/
lemma nodup_of_holds {keys : List Typed} (h : s.Holds keys) : keys.Nodup := by
  cases s with
  | hashed => exact h
  | ordered =>
    refine Pairwise.imp (fun {a b} hlt => ?_) h
    rintro rfl
    exact asymm_ltOf.asymm _ _ hlt hlt

/-- The dynamic values for the keys that a table holds are different. -/
lemma nodup_toValue {keys : List Typed} (hT : T.IsKey) (hkeys : ∀ a ∈ keys, HasType T a)
    (h : s.Holds keys) : (keys.map toValue).Nodup :=
  Nodup.map_on (fun a ha b hb => (hkeys a ha).toValue_inj_key hT (hkeys b hb)) (nodup_of_holds h)

/-- **The equality of a type is that of the dynamic values.**

The induction is on the derivation of the type of the first value. -/
theorem same_iff {T : ValueType} {a b : Typed} (ha : HasType T a) (hb : HasType T b) :
    T.same a b = true ↔ a.toValue.same b.toValue = true := by
  have hscalar (s t : Scalar) : (Value.scalar s).same (.scalar t) = true ↔ s = t := decide_eq_true_iff
  induction ha generalizing b with
  | signed ht hi =>
    cases hb with
    | signed _ _ => simp [ValueType.same, toValue, Value.int, hscalar]
    | unsigned ht' _ => rw [ht] at ht'; cases ht'
  | unsigned ht hu =>
    cases hb with
    | signed ht' _ => rw [ht] at ht'; cases ht'
    | unsigned _ _ => simp [ValueType.same, toValue, Value.uint, hscalar]
  | double x =>
    cases hb with | double y =>
    simp [ValueType.same, toValue, Value.float, hscalar]
  | @single x hx =>
    cases hb with | @single y hy =>
    simp only [ValueType.same, toValue, Value.float, hscalar, decide_eq_true_eq, Scalar.float.injEq]
    refine ⟨congrArg _, fun h => ?_⟩
    rw [← Number.Binary32.narrow_widen hx, h, Number.Binary32.narrow_widen hy]
  | bool x =>
    cases hb with | bool y =>
    simp [ValueType.same, toValue, Value.bool, hscalar]
  | char c =>
    cases hb with | char d =>
    simp [ValueType.same, toValue, Value.char, hscalar]
  | text s =>
    cases hb with | text t =>
    simp [ValueType.same, toValue, Value.text, hscalar]
  | any v =>
    cases hb with | any w =>
    rfl
  | absent T =>
    cases hb with
    | absent => exact iff_of_true rfl rfl
    | present _ => exact iff_of_false Bool.false_ne_true Bool.false_ne_true
  | present _ ih =>
    cases hb with
    | absent => exact iff_of_false Bool.false_ne_true Bool.false_ne_true
    | present hb => exact ih hb
  | wrapper w _ ih =>
    cases hb with | wrapper _ hb =>
    exact ih hb
  | @sequence T as s has ih =>
    cases hb with | @sequence _ bs _ hbs =>
    rw [toValue_sequence, toValue_sequence, Value.same, Value.observe_list, Value.observe_list]
    change _ ↔ Observation.sameAll _ _ = true
    rw [Observation.sameAll_iff, map_map, map_map, forall₂_map_left_iff, forall₂_map_right_iff]
    exact ValueType.same_sequence_iff.trans
      (forall₂_congr_of_mem fun x hx y hy => ih x hx (hbs y hy))
  | @set T as s hT has hholds ih =>
    cases hb with | @set _ bs _ _ hbs hholds' =>
    rw [ValueType.same_set_iff_matched hT has hbs hholds hholds', toValue_set, toValue_set,
      Value.same_set_iff_matched (forall_mem_map.mpr fun x hx => (has x hx).exists_scalar hT)
        (forall_mem_map.mpr fun y hy => (hbs y hy).exists_scalar hT)
        (nodup_toValue hT has hholds) (nodup_toValue hT hbs hholds'), matched_map_iff]
    exact matched_congr fun x hx y hy => ih x hx (hbs y hy)
  | @map K V es s hK hkeys hvalues hholds ihk ihv =>
    cases hb with | @map _ _ fs _ _ hkeys' hvalues' hholds' =>
    have hnodup {es : List (Typed × Typed)} (hkeys : ∀ e ∈ es, HasType K e.1)
        (hholds : s.Holds (es.map Prod.fst)) :
        ((es.map fun e => (e.1.toValue, e.2.toValue)).map Prod.fst).Nodup := by
      have := nodup_toValue hK (forall_mem_map.mpr hkeys) hholds
      rwa [map_map] at this ⊢
    rw [ValueType.same_map_iff_matched hK hkeys hkeys' hholds hholds', toValue_map, toValue_map,
      Value.same_map_iff_matched (forall_mem_map.mpr fun e he => (hkeys e he).exists_scalar hK)
        (forall_mem_map.mpr fun f hf => (hkeys' f hf).exists_scalar hK)
        (hnodup hkeys hholds) (hnodup hkeys' hholds'), matched_map_iff]
    exact matched_congr fun e he f hf =>
      and_congr (ihk e he (hkeys' f hf)) (ihv e he (hvalues' f hf))
  | @grid T g hcells ih =>
    cases hb with | @grid _ g' hcells' =>
    rw [ValueType.same_grid_iff, toValue_grid, toValue_grid, Value.same_grid_iff, Grid.map, Grid.map,
      forall₂_map_left_iff, forall₂_map_right_iff]
    refine and_congr_right fun _ => and_congr_right fun _ => ?_
    exact forall₂_congr_of_mem fun c hc d hd => and_congr_right fun _ => ih c hc (hcells' d hd)
  | bean _ =>
    cases hb with | bean _ =>
    rfl

/-- **Equal values of a type have the same bytes.**

**Proof sketch.** Values of any type and beans are compared as dynamic values, whose bytes are known to
be the same. Tables are matched, so that their items have the same bytes in some order; the bytes of a
table without order do not depend on it, and those of one with an order come side by side. -/
theorem feed_eq {heap : Identity → Grid Value} {T : ValueType} {a b : Typed} (ha : HasType T a)
    (hb : HasType T b) (hsound : a.toValue.Sound heap) (hsound' : b.toValue.Sound heap)
    (h : T.same a b = true) : T.feed a = T.feed b := by
  induction ha generalizing b with
  | signed ht _ =>
    cases hb with
    | signed _ _ => rw [eq_of_beq h]
    | unsigned ht' _ => rw [ht] at ht'; cases ht'
  | unsigned ht _ =>
    cases hb with
    | signed ht' _ => rw [ht] at ht'; cases ht'
    | unsigned _ _ => rw [eq_of_beq h]
  | double x =>
    cases hb with | double y =>
    rw [of_decide_eq_true h]
  | single _ =>
    cases hb with | single _ =>
    rw [of_decide_eq_true h]
  | bool x =>
    cases hb with | bool y =>
    rw [eq_of_beq h]
  | char c =>
    cases hb with | char d =>
    rw [eq_of_beq h]
  | text s =>
    cases hb with | text t =>
    rw [eq_of_beq h]
  | any v =>
    cases hb with | any w =>
    exact Observation.feed_eq_of_same hsound.observe hsound'.observe h
  | absent T =>
    cases hb with
    | absent => rfl
    | present _ => cases h
  | present _ ih =>
    cases hb with
    | absent => cases h
    | present hb =>
      cases hsound with | present hsound =>
      cases hsound' with | present hsound' =>
      exact congrArg (ofTag 1 ++ ·) (ih hb hsound hsound' h)
  | wrapper w _ ih =>
    cases hb with | wrapper _ hb =>
    exact ih hb hsound hsound' h
  | @sequence T as s has ih =>
    cases hb with | @sequence _ bs _ hbs =>
    rw [toValue_sequence] at hsound hsound'
    cases hsound with | list hsound =>
    cases hsound' with | list hsound' =>
    refine congrArg ofSequence (map_eq_of_forall₂ ?_)
    exact forall₂_imp_of_mem (ValueType.same_sequence_iff.mp h) fun x hx y hy =>
      ih x hx (hbs y hy) (hsound _ (mem_map_of_mem hx)) (hsound' _ (mem_map_of_mem hy))
  | @set T as s hT has hholds ih =>
    cases hb with | @set _ bs _ _ hbs hholds' =>
    have hmatched := (ValueType.same_set_iff_matched hT has hbs hholds hholds').mp h
    exact ValueType.feed_set_eq h hmatched fun x hx y hy hxy =>
      congrArg T.feed (((has x hx).same_key_iff hT (hbs y hy)).mp hxy)
  | @map K V es s hK hkeys hvalues hholds ihk ihv =>
    cases hb with | @map _ _ fs _ _ hkeys' hvalues' hholds' =>
    have hmatched := (ValueType.same_map_iff_matched hK hkeys hkeys' hholds hholds').mp h
    rw [toValue_map] at hsound hsound'
    cases hsound with | map hsoundk hsoundv =>
    cases hsound' with | map hsoundk' hsoundv' =>
    exact ValueType.feed_map_eq h hmatched fun e he f hf hef =>
      ⟨ihk e he (hkeys' f hf) (hsoundk _ (mem_map_of_mem he)) (hsoundk' _ (mem_map_of_mem hf)) hef.1,
        ihv e he (hvalues' f hf) (hsoundv _ (mem_map_of_mem he)) (hsoundv' _ (mem_map_of_mem hf))
          hef.2⟩
  | @grid T g hcells ih =>
    cases hb with | @grid _ g' hcells' =>
    obtain ⟨hrows, hcolumns, hall⟩ := ValueType.same_grid_iff.mp h
    rw [toValue_grid] at hsound hsound'
    cases hsound with | grid _ hsound =>
    cases hsound' with | grid _ hsound' =>
    have hfeeds : (g.cells.map fun c => ofNat c.1.1 ++ ofNat c.1.2 ++ T.feed c.2) =
        g'.cells.map fun c => ofNat c.1.1 ++ ofNat c.1.2 ++ T.feed c.2 := by
      refine map_eq_of_forall₂ (forall₂_imp_of_mem hall fun c hc d hd hcd => ?_)
      rw [hcd.1, ih c hc (hcells' d hd) (hsound _ (mem_map_of_mem hc))
        (hsound' _ (mem_map_of_mem hd)) hcd.2]
    rw [ValueType.feed, ValueType.feed, hrows, hcolumns, hfeeds]
  | bean _ =>
    cases hb with | bean _ =>
    exact Observation.feed_eq_of_same hsound.observe hsound'.observe h

end Typed.HasType

namespace ValueType

/-- **Typed equality agrees with dynamic equality.** Two values of a type are equal exactly if the
dynamic values for them are; so the equality of the type is symmetric, and equal values have the same
bytes. -/
theorem typed_equality {heap : Identity → Grid Value} {T : ValueType} {a b : Typed}
    (ha : Typed.HasType T a) (hb : Typed.HasType T b) (hsound : a.toValue.Sound heap)
    (hsound' : b.toValue.Sound heap) :
    (T.same a b = true ↔ a.toValue.same b.toValue = true) ∧
      (T.same a b = true → T.same b a = true) ∧ (T.same a b = true → T.feed a = T.feed b) := by
  refine ⟨ha.same_iff hb, fun h => ?_, ha.feed_eq hb hsound hsound'⟩
  refine (hb.same_iff ha).mpr ?_
  exact Observation.same_symm hsound.observe hsound'.observe ((ha.same_iff hb).mp h)

/-- Two maps without order that are gone through in different ways. -/
theorem typed_equality_hashed :
    let T : ValueType := .map .hashed .char (.option .any)
    let e : Typed × Typed := (.char 'a', .present (.any (.int 1)))
    let f : Typed × Typed := (.char 'b', .absent)
    (Typed.map [e, f]).toValue.same (Typed.map [f, e]).toValue = true ∧
      T.feed (.map [e, f]) = T.feed (.map [f, e]) := by
  intro T e f
  have htype (es : List (Typed × Typed)) (hmem : ∀ x ∈ es, x = e ∨ x = f)
      (hnodup : (es.map Prod.fst).Nodup) : Typed.HasType T (.map es) := by
    refine .map .char (fun x hx => ?_) (fun x hx => ?_) hnodup
    all_goals obtain rfl | rfl := hmem x hx
    · exact .char 'a'
    · exact .char 'b'
    · exact .present (.any _)
    · exact .absent _
  have hsound (es : List (Typed × Typed)) (hmem : ∀ x ∈ es, x = e ∨ x = f) :
      (Typed.map es).toValue.Sound fun _ => .empty 0 0 := by
    rw [Typed.toValue_map]
    refine .map (forall_mem_map.mpr fun x hx => ?_) (forall_mem_map.mpr fun x hx => ?_)
    all_goals obtain rfl | rfl := hmem x hx
    · exact .scalar _
    · exact .scalar _
    · exact .present (.scalar _)
    · exact .absent
  have hlaws := typed_equality (htype [e, f] (by simp) (by simp [e, f]))
    (htype [f, e] (by simp) (by simp [e, f])) (hsound [e, f] (by simp)) (hsound [f, e] (by simp))
  have hsame : T.same (.map [e, f]) (.map [f, e]) = true := by decide
  exact ⟨hlaws.1.mp hsame, hlaws.2.2 hsame⟩

end ValueType

end Beans
