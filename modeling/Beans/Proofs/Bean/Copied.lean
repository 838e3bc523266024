import Mathlib.Tactic.Common
import Beans.Proofs.Bean.Regular

/-!
# What copies keep

The copy of a value is a value of the same make: of the same kind and the same types, and as empty or
blank. Nothing is said yet of when there is a copy.

All this is about copies that share objects; a copy of a grid with its cells is another object.

## Main definitions

* `Beans.Builder.kind` — the kind of the bean that is built.
* `Beans.BeanKind.undeclared` — a kind without declared types.

## Main results

* `Beans.Cloner.kind_of_rebuild` — a bean that is built again is of the same kind.
* `Beans.Cloner.hasType_of_clone` — the copy of a value of a type is one.
* `Beans.Cloner.holds_of_clone` — the copy of a value obeys the same rules.
-/

set_option autoImplicit false

open List

namespace Beans

/-! ## The kind of a bean -/

/-- The kind without declared types. -/
def BeanKind.undeclared : BeanKind → BeanKind
  | record t => record t
  | flexible _ => flexible []
  | sorted => sorted

@[simp]
lemma BeanKind.type_undeclared (kind : BeanKind) : kind.undeclared.type = kind.type := by
  cases kind <;> rfl

/-- Writing keeps the kind of a bean. -/
lemma Bean.kind_of_set {b b' : Bean} {name : String} {v : Value} (h : b.set name v = .ok b') :
    b'.kind = b.kind := by
  obtain ⟨d, -, h⟩ := bind_eq_ok_iff.mp h
  obtain ⟨-, hwrite⟩ := MetaProperty.of_set h
  obtain ⟨kind, fields⟩ := b
  cases kind with
  | record t =>
    rw [write] at hwrite
    dsimp only at hwrite
    split at hwrite
    case h_1 =>
      obtain ⟨w, -, rfl⟩ := map_eq_ok_iff.mp hwrite
      rfl
    case h_2 => cases hwrite
  | flexible types => exact Except.ok.inj hwrite ▸ rfl
  | sorted => exact Except.ok.inj hwrite ▸ rfl

namespace Builder

/-- The kind of the bean that is built. -/
def kind : Builder → BeanKind
  | editing b => b.kind
  | growing b => b.kind
  | collecting t _ => .record t
  | buffering t _ _ => .record t

variable {b b' : Builder} {name : String} {v : Value}

/-- Supplying a value keeps the kind. -/
lemma kind_of_set (h : b.set name v = .ok b') : b'.kind = b.kind := by
  cases b with
  | editing bean =>
    obtain ⟨bean', hset, rfl⟩ := map_eq_ok_iff.mp h
    exact Bean.kind_of_set hset
  | growing bean => exact Except.ok.inj h ▸ rfl
  | collecting t values =>
    obtain ⟨d, -, h⟩ := bind_eq_ok_iff.mp h
    dsimp only at h
    split at h
    case h_1 =>
      obtain ⟨w, -, h⟩ := bind_eq_ok_iff.mp h
      exact Except.ok.inj h ▸ rfl
    case h_2 => cases h
  | buffering t steps args =>
    obtain ⟨d, -, h⟩ := bind_eq_ok_iff.mp h
    split at h
    case isTrue => exact Except.ok.inj h ▸ rfl
    case isFalse => cases h

/-- What is built is of the kind. -/
lemma kind_of_build {bean : Bean} (h : b.build = .ok bean) : bean.kind = b.kind := by
  cases b with
  | editing b => exact Except.ok.inj h ▸ rfl
  | growing b => exact Except.ok.inj h ▸ rfl
  | collecting t values =>
    unfold build RecordType.collect at h
    dsimp only at h
    split at h
    case h_1 => cases h
    case h_2 =>
      obtain ⟨_, -, h⟩ := bind_eq_ok_iff.mp h
      exact Except.ok.inj h ▸ rfl
  | buffering t steps args =>
    obtain ⟨fields, -, rfl⟩ := map_eq_ok_iff.mp h
    rfl

end Builder

namespace Cloner

/-- What builders keep when they take a value, they keep when they are given copies. -/
lemma of_feedBuilder {P : Builder → Prop}
    (hset : ∀ {b b' : Builder} {name : String} {v : Value}, P b → b.set name v = .ok b' → P b')
    {parts : List (MetaProperty × Except BeanError Value)} {b b' : Builder} (hb : P b)
    (h : feedBuilder b parts = .ok b') : P b' := by
  induction parts generalizing b with
  | nil => exact Except.ok.inj h ▸ hb
  | cons part parts ih =>
    obtain ⟨v, -, h⟩ := bind_eq_ok_iff.mp h
    obtain ⟨b'', hb'', h⟩ := bind_eq_ok_iff.mp h
    exact ih (hset hb hb'') h

/-- Supplying copies keeps the kind. -/
lemma kind_of_feedBuilder {parts : List (MetaProperty × Except BeanError Value)} {b b' : Builder}
    (h : feedBuilder b parts = .ok b') : b'.kind = b.kind := by
  have hset {c c' : Builder} {name : String} {v : Value} (hc : c.kind = b.kind)
      (h : c.set name v = .ok c') : c'.kind = b.kind := (Builder.kind_of_set h).trans hc
  exact @of_feedBuilder (fun c => c.kind = b.kind) hset parts b b' rfl h

/-- If there are builders, a bean is built again by a new one that is given copies. -/
lemma of_rebuild {kind : BeanKind} {fields : List (String × Value)}
    {copies : List (String × Except BeanError Value)} {b : Bean}
    (hbuildable : kind.metaBean.isBuildable = true) (h : rebuild kind fields copies = .ok b) :
    ∃ start parts done, kind.metaBean.builder = .ok start ∧ feedBuilder start parts = .ok done ∧
      done.build = .ok b := by
  unfold rebuild at h
  dsimp only at h
  rw [if_neg (by simp [hbuildable])] at h
  obtain ⟨start, hstart, h⟩ := bind_eq_ok_iff.mp h
  obtain ⟨done, hfeed, hbuild⟩ := bind_eq_ok_iff.mp h
  exact ⟨start, _, done, hstart, hfeed, hbuild⟩

/-- So it is for a deep copy of a bean of a record type. -/
lemma of_cloneBean_record {c : Cloner} {t : RecordType} {b copy : Bean} (hb : b.kind = .record t)
    (hbuilding : t.building ≠ .impossible) (h : c.cloneBean b = .ok copy) :
    ∃ start parts done, t.builder = .ok start ∧ feedBuilder start parts = .ok done ∧
      done.build = .ok copy := by
  obtain ⟨kind, fields⟩ := b
  obtain rfl : kind = .record t := hb
  have hbuildable : t.isBuildable = true := by
    unfold RecordType.isBuildable
    split
    case h_1 himpossible => exact absurd himpossible hbuilding
    all_goals rfl
  exact @of_rebuild (.record t) _ _ _ hbuildable h

/-- **A bean that is built again is of the same kind**, without declared types. -/
theorem kind_of_rebuild {kind : BeanKind} {fields : List (String × Value)}
    {copies : List (String × Except BeanError Value)} {b : Bean}
    (h : rebuild kind fields copies = .ok b) : b.kind = kind.undeclared := by
  cases hbuildable : kind.metaBean.isBuildable with
  | false =>
    unfold rebuild at h
    dsimp only at h
    rw [if_pos (by simp [hbuildable])] at h
    obtain rfl := Except.ok.inj h
    cases kind with
    | record t => rfl
    | flexible types => cases hbuildable
    | sorted => cases hbuildable
  | true =>
    obtain ⟨start, parts, done, hstart, hfeed, hbuild⟩ := of_rebuild hbuildable h
    rw [Builder.kind_of_build hbuild, kind_of_feedBuilder hfeed]
    cases kind with
    | record t =>
      change t.builder = .ok start at hstart
      unfold RecordType.builder at hstart
      split at hstart
      case h_1 => cases hstart
      all_goals exact Except.ok.inj hstart ▸ rfl
    | flexible types => exact Except.ok.inj hstart ▸ rfl
    | sorted => exact Except.ok.inj hstart ▸ rfl

/-! ## Copies of several values -/

variable {c : Cloner}

/-- Values are copied one by one. -/
lemma cloneAll_eq_mapM (vs : List Value) : c.cloneAll vs = vs.mapM c.cloneValue := by
  induction vs with
  | nil => rfl
  | cons v vs ih =>
    rw [mapM_cons, ← ih]
    rfl

/-- Entries are copied one by one. -/
lemma cloneEntries_eq_mapM (es : List (Value × Value)) :
    c.cloneEntries es = es.mapM fun e => do return (← c.cloneValue e.1, ← c.cloneValue e.2) := by
  induction es with
  | nil => rfl
  | cons e es ih =>
    obtain ⟨k, v⟩ := e
    rw [mapM_cons, ← ih, cloneEntries]
    cases c.cloneValue k with
    | error e => rfl
    | ok k => cases c.cloneValue v <;> rfl

/-- Fields are copied one by one, and each may fail. -/
lemma cloneFields_eq_map (fields : List (String × Value)) :
    c.cloneFields fields = fields.map fun f => (f.1, c.cloneValue f.2) := by
  induction fields with
  | nil => rfl
  | cons f fields ih => exact congrArg (_ :: ·) ih

section

variable {items : List Value} {entries : List (Value × Value)} {v w : Value}

/-- The copy of a list is a list of copies. -/
lemma of_clone_list (h : c.cloneValue (.list items) = .ok w) :
    ∃ ws, Forall₂ (fun v w => c.cloneValue v = .ok w) items ws ∧ w = .list ws := by
  obtain ⟨ws, hws, rfl⟩ := map_eq_ok_iff.mp h
  exact ⟨ws, mapM_eq_ok_iff.mp (cloneAll_eq_mapM items ▸ hws), rfl⟩

/-- The copy of a set is a set of copies. -/
lemma of_clone_set (h : c.cloneValue (.set items) = .ok w) :
    ∃ ws, Forall₂ (fun v w => c.cloneValue v = .ok w) items ws ∧ w = .set ws := by
  obtain ⟨ws, hws, rfl⟩ := map_eq_ok_iff.mp h
  exact ⟨ws, mapM_eq_ok_iff.mp (cloneAll_eq_mapM items ▸ hws), rfl⟩

/-- The copy of a map is a map of copies. -/
lemma of_clone_map (h : c.cloneValue (.map entries) = .ok w) :
    ∃ fs, Forall₂ (fun e f => c.cloneValue e.1 = .ok f.1 ∧ c.cloneValue e.2 = .ok f.2) entries fs ∧
      w = .map fs := by
  obtain ⟨fs, hfs, rfl⟩ := map_eq_ok_iff.mp h
  refine ⟨fs, (mapM_eq_ok_iff.mp (cloneEntries_eq_mapM entries ▸ hfs)).imp fun e f hef => ?_, rfl⟩
  obtain ⟨k, hk, hef⟩ := bind_eq_ok_iff.mp hef
  obtain ⟨v, hv, hef⟩ := bind_eq_ok_iff.mp hef
  obtain rfl := Except.ok.inj hef
  exact ⟨hk, hv⟩

/-- A value with a copy is a scalar and its own copy, or neither is a scalar. -/
lemma eq_or_of_clone (h : c.cloneValue v = .ok w) :
    w = v ∨ v.asScalar? = none ∧ w.asScalar? = none := by
  cases v with
  | scalar s => exact .inl (Except.ok.inj h).symm
  | list items =>
    obtain ⟨ws, -, rfl⟩ := map_eq_ok_iff.mp h
    exact .inr ⟨rfl, rfl⟩
  | set items =>
    obtain ⟨ws, -, rfl⟩ := map_eq_ok_iff.mp h
    exact .inr ⟨rfl, rfl⟩
  | map entries =>
    obtain ⟨fs, -, rfl⟩ := map_eq_ok_iff.mp h
    exact .inr ⟨rfl, rfl⟩
  | optional item =>
    cases item with
    | none => exact .inl (Except.ok.inj h).symm
    | some v =>
      obtain ⟨w, -, rfl⟩ := map_eq_ok_iff.mp h
      exact .inr ⟨rfl, rfl⟩
  | bean b =>
    obtain ⟨b, -, rfl⟩ := map_eq_ok_iff.mp h
    exact .inr ⟨rfl, rfl⟩
  | thing i t =>
    refine .inr ⟨rfl, ?_⟩
    rw [← Except.ok.inj h, cloneThing]
    split <;> rfl
  | grid i g =>
    obtain ⟨rows, columns, cells⟩ := g
    refine .inr ⟨rfl, ?_⟩
    rw [cloneValue] at h
    split at h
    case isTrue =>
      obtain ⟨cells, -, rfl⟩ := map_eq_ok_iff.mp h
      rfl
    case isFalse => exact Except.ok.inj h ▸ rfl

/-- The copy of a trimmed value is trimmed. -/
lemma trimmed_of_clone (h : c.cloneValue v = .ok w) (hv : v.trimmed = v) : w.trimmed = w := by
  obtain rfl | ⟨-, hw⟩ := eq_or_of_clone h
  · exact hv
  · cases w with
    | scalar s => cases hw
    | _ => rfl

end

/-! ## Types and rules -/

section

variable {v w : Value} (hc : c.tier = .collections)

include hc

/-- Objects are shared. -/
lemma clone_thing (i : Identity) (t : Thing) : c.cloneValue (.thing i t) = .ok (.thing i t) := by
  rw [cloneValue, cloneThing, hc]
  rfl

/-- Grids, too, are shared. -/
lemma clone_grid (i : Identity) (g : Grid Value) : c.cloneValue (.grid i g) = .ok (.grid i g) := by
  rw [cloneValue, hc]
  rfl

omit hc in
/-- A key is its own copy. -/
lemma eq_of_clone_key {T : ValueType} {x : Typed} (hT : T.IsKey) (hx : Typed.HasType T x)
    (h : c.cloneValue x.toValue = .ok w) : x.toValue = w := by
  obtain ⟨s, hs⟩ := hx.exists_scalar hT
  rw [hs] at h ⊢
  exact Except.ok.inj h

open Typed in
/-- **The copy of a value of a type is a value of the type.** -/
theorem hasType_of_clone {T : ValueType} {x : Typed} (hx : HasType T x)
    (h : c.cloneValue x.toValue = .ok w) : ∃ y, HasType T y ∧ y.toValue = w := by
  induction hx generalizing w with
  | signed ht hi => exact ⟨_, .signed ht hi, Except.ok.inj h⟩
  | unsigned ht hu => exact ⟨_, .unsigned ht hu, Except.ok.inj h⟩
  | double x => exact ⟨_, .double x, Except.ok.inj h⟩
  | single hx => exact ⟨_, .single hx, Except.ok.inj h⟩
  | bool b => exact ⟨_, .bool b, Except.ok.inj h⟩
  | char a => exact ⟨_, .char a, Except.ok.inj h⟩
  | text s => exact ⟨_, .text s, Except.ok.inj h⟩
  | any v => exact ⟨_, .any w, rfl⟩
  | absent T => exact ⟨_, .absent T, Except.ok.inj h⟩
  | present _ ih =>
    obtain ⟨w, hw, rfl⟩ := map_eq_ok_iff.mp h
    obtain ⟨y, hy, rfl⟩ := ih hw
    exact ⟨_, .present hy, rfl⟩
  | wrapper kind _ ih =>
    obtain ⟨y, hy, rfl⟩ := ih h
    exact ⟨y, .wrapper kind hy, rfl⟩
  | sequence s _ ih =>
    rw [toValue_sequence] at h
    obtain ⟨ws, hws, rfl⟩ := of_clone_list h
    rw [forall₂_map_left_iff] at hws
    obtain ⟨ys, hys⟩ := Order.exists_forall₂ fun w hw => by
      obtain ⟨x, hx, hxw⟩ := Order.exists_of_forall₂ hws.flip hw
      exact ih x hx hxw
    refine ⟨.sequence ys, .sequence s fun y hy => ?_, ?_⟩
    · obtain ⟨w, -, hy, -⟩ := Order.exists_of_forall₂ hys.flip hy
      exact hy
    · rw [toValue_sequence, ← Order.map_eq_of_forall₂ (hys.imp fun w y h => h.2.symm), map_id']
  | @set T items s hT hitems hholds =>
    rw [toValue_set] at h
    obtain ⟨ws, hws, rfl⟩ := of_clone_set h
    rw [forall₂_map_left_iff] at hws
    have heq := Order.map_eq_of_forall₂ (g := id) (Order.forall₂_imp_of_mem hws
      fun x hx w _ hxw => eq_of_clone_key hT (hitems x hx) hxw)
    exact ⟨.set items, .set hT hitems hholds, by rw [toValue_set, heq, map_id]⟩
  | @map K V entries s hK hkeys hvalues hholds _ ih =>
    rw [toValue_map] at h
    obtain ⟨fs, hfs, rfl⟩ := of_clone_map h
    rw [forall₂_map_left_iff] at hfs
    -- the copies of the entries, with the keys as they are
    obtain ⟨ds, hds⟩ : ∃ ds, Forall₂ (fun (e d : Typed × Typed) => d.1 = e.1 ∧ HasType V d.2 ∧
        c.cloneValue e.2.toValue = .ok d.2.toValue) entries ds := by
      refine Order.exists_forall₂ fun e he => ?_
      obtain ⟨f, -, -, hef⟩ := Order.exists_of_forall₂ hfs he
      obtain ⟨y, hy, hyf⟩ := ih e he hef
      exact ⟨(e.1, y), rfl, hy, hyf ▸ hef⟩
    have hkeys_eq : ds.map Prod.fst = entries.map Prod.fst :=
      (Order.map_eq_of_forall₂ (hds.imp fun e d h => h.1.symm)).symm
    refine ⟨.map ds, .map hK (fun d hd => ?_) (fun d hd => ?_) (hkeys_eq ▸ hholds), ?_⟩
    · obtain ⟨e, he, hd, -⟩ := Order.exists_of_forall₂ hds.flip hd
      exact hd ▸ hkeys e he
    · obtain ⟨e, -, -, hd, -⟩ := Order.exists_of_forall₂ hds.flip hd
      exact hd
    · have heq := Order.map_eq_of_forall₂ (f := id)
        (g := fun d : Typed × Typed => (d.1.toValue, d.2.toValue))
        (Order.forall₂_trans_of_mem hfs.flip hds fun f _ e he d _ hef hed => by
          have hkey := eq_of_clone_key hK (hkeys e he) hef.1
          exact Prod.ext (by rw [hed.1, hkey]; rfl) (Except.ok.inj (hef.2.symm.trans hed.2.2)))
      rw [toValue_map, ← heq, map_id]
  | @grid T g hcells =>
    rw [toValue_grid, clone_grid hc] at h
    refine ⟨.grid g, .grid hcells, ?_⟩
    rw [toValue_grid]
    exact Except.ok.inj h
  | bean hb =>
    obtain ⟨b, hb', rfl⟩ := map_eq_ok_iff.mp h
    refine ⟨.bean b, .bean ?_, rfl⟩
    rw [BeanOf.type, kind_of_rebuild hb', BeanKind.type_undeclared]
    exact hb

/-- The copy of a value is as empty, and as blank, as the value. -/
lemma isEmpty_isBlank_of_clone (hv : v.Regular) (h : c.cloneValue v = .ok w) :
    w.isEmpty = v.isEmpty ∧ w.isBlank = v.isBlank := by
  have hempty {α β : Type} {R : α → β → Prop} {as : List α} {bs : List β} (h : Forall₂ R as bs) :
      bs.isEmpty = as.isEmpty := by
    cases h <;> rfl
  induction hv generalizing w with
  | scalar s => exact Except.ok.inj h ▸ ⟨rfl, rfl⟩
  | list _ _ =>
    obtain ⟨ws, hws, rfl⟩ := of_clone_list h
    exact ⟨hempty hws, rfl⟩
  | set _ _ =>
    obtain ⟨ws, hws, rfl⟩ := of_clone_set h
    exact ⟨hempty hws, rfl⟩
  | map _ _ _ _ =>
    obtain ⟨fs, hfs, rfl⟩ := of_clone_map h
    exact ⟨hempty hfs, rfl⟩
  | absent => exact Except.ok.inj h ▸ ⟨rfl, rfl⟩
  | present _ ih =>
    obtain ⟨w, hw, rfl⟩ := map_eq_ok_iff.mp h
    have hinside := ih hw
    exact hinside
  | thing _ t =>
    rw [clone_thing hc] at h
    exact Except.ok.inj h ▸ ⟨rfl, rfl⟩
  | grid i _ _ =>
    rw [clone_grid hc] at h
    exact Except.ok.inj h ▸ ⟨rfl, rfl⟩
  | record _ _ _ _ | flexible _ _ _ | sorted _ _ _ =>
    obtain ⟨b, -, rfl⟩ := map_eq_ok_iff.mp h
    exact ⟨rfl, rfl⟩

/-- **The copy of a value obeys the same rules.** -/
theorem holds_of_clone (r : Rule) (hv : v.Regular) (h : c.cloneValue v = .ok w) :
    r.holds w = r.holds v := by
  obtain ⟨hempty, hblank⟩ := isEmpty_isBlank_of_clone hc hv h
  cases r with
  | notEmpty => rw [Rule.holds, Rule.holds, hempty]
  | notBlank => rw [Rule.holds, Rule.holds, hblank]
  | notNegative =>
    obtain rfl | ⟨hv, hw⟩ := eq_or_of_clone h
    · rfl
    · cases v <;> cases hv <;> cases w <;> cases hw <;> rfl
  | notNull =>
    cases hv with
    | scalar s => exact Except.ok.inj h ▸ rfl
    | absent => exact Except.ok.inj h ▸ rfl
    | thing hi t => exact Except.ok.inj ((clone_thing hc _ t).symm.trans h) ▸ rfl
    | grid i hcells => exact Except.ok.inj ((clone_grid hc i _).symm.trans h) ▸ rfl
    | _ =>
      obtain ⟨_, -, rfl⟩ := map_eq_ok_iff.mp h
      rfl

end

end Cloner

end Beans
