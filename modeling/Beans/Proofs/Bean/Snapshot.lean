import Mathlib.Data.List.Nodup
import Mathlib.Tactic.Common
import Beans.Bean.Access

/-!
# Snapshots

The properties of a bean with any properties are a map that is made anew from its entries. Making it
fails if two entries have one name, and then nothing would be shown at all.

## Main results

* `Beans.MapDraft.firstRepeated?_eq_none_iff` — no name is repeated if all are different.
* `Beans.snapshot?_eq_ok_iff` — when the map can be made, and what it is then.
-/

set_option autoImplicit false

open List

namespace Beans

/-! ## Drafts without aliases -/

namespace MapDraft

/-- No name is repeated if all are different, and different from those that were seen. -/
lemma firstRepeated?_eq_none_iff {seen names : List String} :
    firstRepeated? seen names = none ↔ names.Nodup ∧ ∀ n ∈ names, n ∉ seen := by
  induction names generalizing seen with
  | nil => simp [firstRepeated?]
  | cons n names ih =>
    rw [firstRepeated?]
    by_cases hn : n ∈ seen
    · simp [hn]
    · rw [if_neg (by simpa using hn), ih, nodup_cons, forall_mem_cons]
      constructor
      · rintro ⟨hnodup, hseen⟩
        have hnames : n ∉ names := fun h => hseen n h mem_cons_self
        exact ⟨⟨hnames, hnodup⟩, hn, fun m hm h => hseen m hm (mem_cons_of_mem n h)⟩
      · rintro ⟨⟨hnames, hnodup⟩, -, hseen⟩
        refine ⟨hnodup, fun m hm h => ?_⟩
        rcases mem_cons.mp h with rfl | h
        · exact hnames hm
        · exact hseen m hm h

/-- The properties are added in their order. -/
lemma foldl_property {α : Type} (describe : α → MetaProperty) (items : List α) (d : MapDraft) :
    items.foldl (fun d a => d.property (describe a)) d =
      { d with properties := d.properties ++ items.map describe } := by
  induction items generalizing d with
  | nil => simp
  | cons a items ih =>
    rw [foldl_cons, ih]
    simp [property]

end MapDraft

/-! ## Properties of entries -/

variable {type : BeanType} {entries : List (String × ResolvedType)} {m : PropertyMap}

/-- The names of the properties are those of the entries. -/
lemma map_name_ofEntry :
    (entries.map fun e => MetaProperty.ofEntry type e.1 e.2).map MetaProperty.name =
      entries.map Prod.fst := by
  rw [map_map]
  rfl

/-- **When the map can be made, and what it is then**: the names are different, and the map has a
property for each entry, in their order. -/
theorem snapshot?_eq_ok_iff :
    snapshot? type entries = .ok m ↔
      (entries.map Prod.fst).Nodup ∧
        m = ⟨entries.map fun e => .ofEntry type e.1 e.2, []⟩ := by
  rw [snapshot?, MapDraft.foldl_property, MapDraft.build]
  simp only [MapDraft.new, nil_append, map_name_ofEntry]
  cases hrepeated : MapDraft.firstRepeated? [] (entries.map Prod.fst) with
  | none =>
    have hnodup := (MapDraft.firstRepeated?_eq_none_iff.mp hrepeated).1
    have hbuild : (MapDraft.resolveAliases type.name (entries.map Prod.fst) [] []).map
        (PropertyMap.mk (entries.map fun e => .ofEntry type e.1 e.2)) =
          .ok ⟨entries.map fun e => .ofEntry type e.1 e.2, []⟩ := rfl
    rw [hbuild, Except.ok.injEq]
    constructor
    · intro h
      exact ⟨hnodup, h.symm⟩
    · rintro ⟨-, h⟩
      exact h.symm
  | some n =>
    have hnot : ¬ (entries.map Prod.fst).Nodup := fun hnodup => by
      rw [MapDraft.firstRepeated?_eq_none_iff.mpr ⟨hnodup, by simp⟩] at hrepeated
      cases hrepeated
    constructor
    · intro h
      cases h
    · rintro ⟨hnodup, -⟩
      exact absurd hnodup hnot

/-- The properties of entries with different names, in their order. -/
lemma snapshot_of_nodup (hnodup : (entries.map Prod.fst).Nodup) :
    snapshot type entries = ⟨entries.map fun e => .ofEntry type e.1 e.2, []⟩ := by
  rw [snapshot, snapshot?_eq_ok_iff.mpr ⟨hnodup, rfl⟩]
  rfl

/-- The entries are named as the fields. -/
@[simp]
lemma names_declaredEntries (types : List (String × ResolvedType)) (names : List String) :
    (declaredEntries types names).map Prod.fst = names := by
  rw [declaredEntries, map_map]
  exact map_id names

namespace BeanKind

variable {names : List String}

/-- The properties of a bean with entries of different names. -/
lemma table_flexible (types : List (String × ResolvedType)) (hnames : names.Nodup) :
    (flexible types).table names =
      ⟨names.map fun n => .ofEntry flexibleType n ((types.lookup n).getD .any), []⟩ := by
  rw [table, snapshot_of_nodup (by rwa [names_declaredEntries]), declaredEntries, map_map]
  rfl

/-- They are what is made of the entries, not what is shown if nothing can be made. -/
lemma snapshot?_flexible (types : List (String × ResolvedType)) (hnames : names.Nodup) :
    snapshot? flexibleType (declaredEntries types names) = .ok ((flexible types).table names) := by
  refine snapshot?_eq_ok_iff.mpr ⟨by rwa [names_declaredEntries], ?_⟩
  rw [table_flexible types hnames, declaredEntries, map_map]
  rfl

/-- The same if the entries are in the order of their names. -/
lemma table_sorted (hnames : names.Nodup) :
    sorted.table names = ⟨names.map fun n => .ofEntry sortedType n .any, []⟩ := by
  rw [table, snapshot_of_nodup (by rwa [names_declaredEntries]), declaredEntries, map_map]
  rfl

end BeanKind

end Beans
