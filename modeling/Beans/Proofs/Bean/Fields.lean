import Mathlib.Data.List.Nodup
import Mathlib.Tactic.Common
import Beans.Bean.Arguments

/-!
# Storing fields

What is found in a list of fields, and what storing one value, or several in turn, makes of it.

## Main results

* `Beans.lookup_of_nodup`, `Beans.find?_name_of_nodup` — what is found if all names are different.
* `Beans.eq_of_lookup_eq`, `Beans.eq_of_lookup_eq_of_pairwise` — fields are told by what is found in
  them.
* `Beans.names_putField`, `Beans.putField_of_not_mem` — a value of a known name keeps the names, one of
  a new name comes last.
* `Beans.lookup_putField_eq`, `Beans.lookup_putSorted` — after a value is stored it is found, and the
  others are as before.
* `Beans.lookup_putFields` — after values of different names are stored, each is found.
* `Beans.putFields_of_nodup`, `Beans.putSorteds_of_pairwise` — values of new names are stored as they
  come.
-/

set_option autoImplicit false

open List

namespace Beans

variable {α : Type} {name other : String} {value : α} {fields fields' acc : List (String × α)}

/-! ## Looking up -/

/-- What is found is a field. -/
lemma mem_of_lookup (h : fields.lookup name = some value) : (name, value) ∈ fields := by
  obtain ⟨before, after, rfl, -⟩ := lookup_eq_some_iff.mp h
  exact mem_append_right before mem_cons_self

/-- A field is found by its name. -/
lemma exists_lookup (h : name ∈ fields.map Prod.fst) : ∃ value, fields.lookup name = some value := by
  refine Option.ne_none_iff_exists'.mp fun hnone => ?_
  obtain ⟨f, hf, rfl⟩ := mem_map.mp h
  simpa using lookup_eq_none_iff.mp hnone f hf

/-- Nothing is found under other names. -/
lemma lookup_of_not_mem (h : name ∉ fields.map Prod.fst) : fields.lookup name = none := by
  refine lookup_eq_none_iff.mpr fun f hf => bne_iff_ne.mpr ?_
  rintro rfl
  exact h (mem_map_of_mem hf)

/-- Something is found exactly under the names. -/
lemma isSome_lookup_iff : (fields.lookup name).isSome = true ↔ name ∈ fields.map Prod.fst := by
  constructor
  · intro hsome
    by_contra hnot
    rw [lookup_of_not_mem hnot] at hsome
    cases hsome
  · intro hname
    obtain ⟨v, hv⟩ := exists_lookup hname
    rw [hv]
    rfl

/-- The first field or another one is found. -/
lemma lookup_cons_eq (name other : String) (value : α) (fields : List (String × α)) :
    ((name, value) :: fields).lookup other =
      if other = name then some value else fields.lookup other := by
  rw [lookup_cons]
  by_cases h : other = name
  · rw [if_pos h, h, beq_self_eq_true]
  · rw [if_neg h, beq_false_of_ne h]

/-- A field is looked up by its name if all names are different. -/
lemma lookup_of_nodup {f : String × α} (hnodup : (fields.map Prod.fst).Nodup) (hf : f ∈ fields) :
    fields.lookup f.1 = some f.2 := by
  obtain ⟨before, after, rfl⟩ := append_of_mem hf
  refine lookup_eq_some_iff.mpr ⟨before, after, rfl, fun e he => ?_⟩
  have hne : f.1 ≠ e.1 := by
    intro heq
    rw [map_append, nodup_append] at hnodup
    exact hnodup.2.2 e.1 (mem_map_of_mem he) f.1 (by simp) heq.symm
  simpa using hne

/-- Fields of the same different names are told by what is found in them. -/
lemma eq_of_lookup_eq (hnodup : (fields.map Prod.fst).Nodup)
    (hnames : fields'.map Prod.fst = fields.map Prod.fst)
    (h : ∀ n, fields'.lookup n = fields.lookup n) : fields' = fields := by
  have hvalue (l : List (String × α)) (hl : (l.map Prod.fst).Nodup) :
      l.map some = (l.map Prod.fst).map fun n => (l.lookup n).map (Prod.mk n) := by
    rw [map_map]
    refine map_congr_left fun f hf => ?_
    rw [Function.comp_apply, lookup_of_nodup hl hf]
    rfl
  have hlookup : (fun n => (fields'.lookup n).map (Prod.mk n)) =
      fun n => (fields.lookup n).map (Prod.mk n) := by
    funext n
    rw [h n]
  have hsome : fields'.map some = fields.map some := by
    rw [hvalue fields' (hnames ▸ hnodup), hvalue fields hnodup, hnames, hlookup]
  exact map_injective_iff.mpr (fun _ _ => Option.some.inj) hsome

/-- Fields in the order of their names are told by what is found in them. -/
lemma eq_of_lookup_eq_of_pairwise (hfields : (fields.map Prod.fst).Pairwise (· < ·))
    (hfields' : (fields'.map Prod.fst).Pairwise (· < ·))
    (h : ∀ n, fields'.lookup n = fields.lookup n) : fields' = fields := by
  have hperm : fields'.map Prod.fst ~ fields.map Prod.fst := by
    refine (perm_ext_iff_of_nodup hfields'.nodup hfields.nodup).mpr fun n => ?_
    rw [← isSome_lookup_iff, ← isSome_lookup_iff, h n]
  have hnames : fields'.map Prod.fst = fields.map Prod.fst :=
    hperm.eq_of_pairwise (fun a b _ _ hab hba => absurd hba (String.lt_asymm hab)) hfields' hfields
  exact eq_of_lookup_eq hfields.nodup hnames h

/-- An item is found by its name if all names are different. -/
lemma find?_name_of_nodup {ι : Type} {name : ι → String} {items : List ι} {a : ι}
    (hnodup : (items.map name).Nodup) (ha : a ∈ items) :
    items.find? (fun b => name b == name a) = some a := by
  cases hfound : items.find? fun b => name b == name a with
  | none => exact absurd (beq_self_eq_true _) (find?_eq_none.mp hfound a ha)
  | some b =>
    have hb : b ∈ items := mem_of_find?_eq_some hfound
    have hname : name b = name a := by simpa using find?_some hfound
    rw [inj_on_of_nodup_map hnodup hb ha hname]

/-- What is tabulated is found. -/
lemma lookup_tabulate {names : List String} (f : String → α) (h : name ∈ names) :
    (names.map fun n => (n, f n)).lookup name = some (f name) := by
  induction names with
  | nil => cases h
  | cons n names ih =>
    by_cases hn : name = n
    · rw [hn, map_cons, lookup_cons_self]
    · rw [map_cons, lookup_cons, beq_false_of_ne hn]
      exact ih ((mem_cons.mp h).resolve_left hn)

/-- Taking one field away leaves the others alone. -/
lemma lookup_eraseField_of_ne (h : other ≠ name) :
    (eraseField name fields).lookup other = fields.lookup other := by
  induction fields with
  | nil => rfl
  | cons f fields ih =>
    obtain ⟨n, v⟩ := f
    rw [eraseField, filter_cons]
    by_cases hn : n = name
    · have hne : (other == n) = false := beq_false_of_ne (hn ▸ h)
      rw [if_neg (by simp [hn]), lookup_cons, hne]
      exact ih
    · rw [if_pos (by simpa using hn), lookup_cons, lookup_cons]
      split
      · rfl
      · exact ih

/-! ## Storing one value -/

/-- The value of a name that is stored is found, and the others are left alone. -/
lemma lookup_putField_eq (name other : String) (value : α) (fields : List (String × α)) :
    (putField name value fields).lookup other =
      if other = name then some value else fields.lookup other := by
  by_cases h : other = name
  · rw [if_pos h, h, lookup_putField]
  · rw [if_neg h, lookup_putField_of_ne h]

/-- Nothing but the value is added. -/
lemma mem_putField {f : String × α} (h : f ∈ putField name value fields) :
    f = (name, value) ∨ f ∈ fields := by
  induction fields with
  | nil => exact .inl (mem_singleton.mp h)
  | cons g fields ih =>
    unfold putField at h
    split at h
    case isTrue hname =>
      exact (mem_cons.mp h).imp (fun h => hname ▸ h) (mem_cons_of_mem g)
    case isFalse =>
      rcases mem_cons.mp h with rfl | h
      · exact .inr mem_cons_self
      · exact (ih h).imp_right (mem_cons_of_mem g)

/-- A value of a known name keeps the names. -/
lemma names_putField (value : α) (h : name ∈ fields.map Prod.fst) :
    (putField name value fields).map Prod.fst = fields.map Prod.fst := by
  induction fields with
  | nil => cases h
  | cons f fields ih =>
    unfold putField
    split
    case isTrue => rfl
    case isFalse hname =>
      exact congrArg (f.1 :: ·) (ih ((mem_cons.mp h).resolve_left (Ne.symm hname)))

/-- A value of a new name comes last. -/
lemma putField_of_not_mem (h : name ∉ fields.map Prod.fst) :
    putField name value fields = fields ++ [(name, value)] := by
  induction fields with
  | nil => rfl
  | cons f fields ih =>
    obtain ⟨hne, h⟩ := not_or.mp (mt mem_cons.mpr h)
    rw [putField, if_neg (Ne.symm hne), ih h]
    rfl

/-- In the order of names, too, a value of a name after all others comes last. -/
lemma putSorted_of_lt (h : ∀ n ∈ fields.map Prod.fst, n < name) :
    putSorted name value fields = fields ++ [(name, value)] := by
  induction fields with
  | nil => rfl
  | cons f fields ih =>
    obtain ⟨hlt, h⟩ := forall_mem_cons.mp h
    have hne : f.1 ≠ name := fun heq => String.lt_irrefl name (heq ▸ hlt)
    rw [putSorted, if_neg hne, if_neg (String.lt_asymm hlt), ih h]
    rfl

/-- In the order of names, too, the value of a name that is stored is found, and the others are left
alone. -/
lemma lookup_putSorted (name other : String) (value : α) (fields : List (String × α)) :
    (putSorted name value fields).lookup other =
      if other = name then some value else fields.lookup other := by
  induction fields with
  | nil => rw [putSorted, lookup_cons_eq]
  | cons f fields ih =>
    obtain ⟨n, v⟩ := f
    rw [putSorted]
    split
    case isTrue hn =>
      rw [lookup_cons_eq, lookup_cons_eq, hn]
      split <;> rfl
    case isFalse hn =>
      split
      · rw [lookup_cons_eq]
      · rw [lookup_cons_eq, lookup_cons_eq, ih]
        by_cases h : other = n
        · rw [if_pos h, if_pos h, if_neg (fun heq => hn (h.symm.trans heq))]
        · rw [if_neg h, if_neg h]

/-- In the order of names, too, nothing but the value is added. -/
lemma mem_putSorted {f : String × α} (h : f ∈ putSorted name value fields) :
    f = (name, value) ∨ f ∈ fields := by
  induction fields with
  | nil => exact .inl (mem_singleton.mp h)
  | cons g fields ih =>
    unfold putSorted at h
    split at h
    case isTrue hname => exact (mem_cons.mp h).imp (fun h => hname ▸ h) (mem_cons_of_mem g)
    case isFalse =>
      split at h
      · exact mem_cons.mp h
      · rcases mem_cons.mp h with rfl | h
        · exact .inr mem_cons_self
        · exact (ih h).imp_right (mem_cons_of_mem g)

/-- There is the name that is stored, and there are those from before. -/
lemma mem_names_putSorted {n : String} :
    n ∈ (putSorted name value fields).map Prod.fst ↔ n = name ∨ n ∈ fields.map Prod.fst := by
  induction fields with
  | nil => simp [putSorted]
  | cons f fields ih =>
    obtain ⟨m, v⟩ := f
    rw [putSorted]
    split
    case isTrue hm => simp [hm]
    case isFalse =>
      split
      · simp
      · simp only [map_cons, mem_cons, ih]
        exact or_left_comm

/-- The names stay in order. -/
lemma pairwise_putSorted (name : String) (value : α)
    (h : (fields.map Prod.fst).Pairwise (· < ·)) :
    ((putSorted name value fields).map Prod.fst).Pairwise (· < ·) := by
  induction fields with
  | nil => exact pairwise_singleton _ _
  | cons f fields ih =>
    obtain ⟨n, v⟩ := f
    obtain ⟨hfirst, hrest⟩ := pairwise_cons.mp h
    rw [putSorted]
    split
    case isTrue => exact h
    case isFalse hne =>
      split
      case isTrue hlt =>
        refine pairwise_cons.mpr ⟨?_, h⟩
        exact forall_mem_cons.mpr ⟨hlt, fun m hm => String.lt_trans hlt (hfirst m hm)⟩
      case isFalse hlt =>
        refine pairwise_cons.mpr ⟨fun m hm => ?_, ih hrest⟩
        rcases mem_names_putSorted.mp hm with rfl | hm
        · exact Std.lt_of_le_of_ne (String.not_lt.mp hlt) hne
        · exact hfirst m hm

/-! ## Storing several values -/

/-- The fields after the given values are stored in turn. -/
def putFields (acc : List (String × α)) (values : List (String × α)) : List (String × α) :=
  values.foldl (fun fields f => putField f.1 f.2 fields) acc

/-- **After values of different names are stored, each is found**, and the others are as before. -/
theorem lookup_putFields {values : List (String × α)} (hnodup : (values.map Prod.fst).Nodup) :
    (putFields acc values).lookup name = (values.lookup name <|> acc.lookup name) := by
  induction values generalizing acc with
  | nil => rfl
  | cons f values ih =>
    obtain ⟨hnew, hnodup⟩ := nodup_cons.mp hnodup
    change (putFields (putField f.1 f.2 acc) values).lookup name = _
    rw [ih hnodup, lookup_cons]
    by_cases hname : name = f.1
    · rw [hname, lookup_of_not_mem hnew, lookup_putField, beq_self_eq_true]
      rfl
    · rw [lookup_putField_of_ne hname, beq_false_of_ne hname]

/-- Values of new names are stored as they come. -/
lemma putFields_of_nodup {values : List (String × α)}
    (h : ((acc ++ values).map Prod.fst).Nodup) : putFields acc values = acc ++ values := by
  induction values generalizing acc with
  | nil => exact (append_nil acc).symm
  | cons f values ih =>
    have hnew : f.1 ∉ acc.map Prod.fst := fun hmem => by
      rw [map_append, nodup_append] at h
      exact h.2.2 _ hmem _ mem_cons_self rfl
    change putFields (putField f.1 f.2 acc) values = _
    rw [putField_of_not_mem hnew, ih (by simpa using h), append_assoc]
    rfl

/-- Values in the order of their names are stored as they come in that order. -/
lemma putSorteds_of_pairwise {values : List (String × α)}
    (h : ((acc ++ values).map Prod.fst).Pairwise (· < ·)) :
    values.foldl (fun fields f => putSorted f.1 f.2 fields) acc = acc ++ values := by
  induction values generalizing acc with
  | nil => exact (append_nil acc).symm
  | cons f values ih =>
    have hlt : ∀ n ∈ acc.map Prod.fst, n < f.1 := fun n hn => by
      rw [map_append, pairwise_append] at h
      exact h.2.2 n hn f.1 mem_cons_self
    rw [foldl_cons, putSorted_of_lt hlt, ih (by simpa using h), append_assoc]
    rfl

end Beans
