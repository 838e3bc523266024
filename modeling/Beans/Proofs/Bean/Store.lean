import Mathlib.Data.List.DropRight
import Mathlib.Data.List.Nodup
import Mathlib.Tactic.Common
import Beans.Proofs.Bean.Fields
import Beans.Proofs.Bean.Snapshot
import Beans.Proofs.Result
import Beans.Proofs.Types.Written

/-!
# Changing beans with any properties

A bean that takes any properties keeps its values and its declared types in two lists, and every change
treats the two in its own way. Here it is proved that they agree after all changes, and that what a
bean holds and shows can be told from the changes alone: which names it has, in which order, what each
holds, and of which type it is declared.

## Main definitions

* `Beans.Edit` — a change, and `Beans.Bean.edited`, the bean after several.
* `Beans.presence` — the changes since a name came for the last time.
* `Beans.Recalls` — what a store owes to the changes made to it.

## Main results

* `Beans.Edit.effect_apply` — what one change does to names, values and types.
* `Beans.Recalls.concat` — one more change is recalled, too.
* `Beans.edited_recalls` — all changes of an empty bean are recalled, and its properties can always be
  shown.

## Implementation notes

A change may fail, such as setting a property that is absent; then the bean stays as it is. A
description of a property may be kept while the property is removed. Setting through it brings the
property back.
-/

set_option autoImplicit false

open List

namespace Beans

/-! ## Changes -/

/-- A change of a bean with any properties. -/
inductive Edit
  /-- A value is put under a name. -/
  | put (name : String) (v : Value)
  /-- A property is set by its name. -/
  | set (name : String) (v : Value)
  /-- A property is set by its name, and its old value is asked for. -/
  | exchange (name : String) (v : Value)
  /-- A property is set through a description, of this bean or another one. -/
  | setThrough (p : MetaProperty) (v : Value)
  /-- A property is set through a description, and its old value is asked for. -/
  | exchangeThrough (p : MetaProperty) (v : Value)
  /-- A property is declared. -/
  | define (name : String) (type : ResolvedType)
  /-- A property is removed. -/
  | erase (name : String)
  /-- All properties are removed. -/
  | clear

/-- The bean after a change; if the change fails, the bean as it was. -/
def Edit.apply (b : Bean) : Edit → Bean
  | put n v => (b.putEntry n v).2
  | set n v => (b.set n v).toOption.getD b
  | exchange n v => ((b.put n v).toOption.map Prod.snd).getD b
  | setThrough p v => (p.set b v).toOption.getD b
  | exchangeThrough p v => ((p.put b v).toOption.map Prod.snd).getD b
  | define n t => b.define n t
  | erase n => (b.eraseEntry n).2
  | clear => b.clear

/-- An empty bean after some changes. -/
def Bean.edited (edits : List Edit) : Bean := edits.foldl Edit.apply .flexible

/-- Whether values can be stored through a description in beans that keep the order. -/
def MetaProperty.fitsFlexible (p : MetaProperty) : Bool := p.settable && flexibleType.same p.holder

namespace Edit

/-- The name that is there after the change, whether or not it was before. -/
def brings? : Edit → Option String
  | put n _ | define n _ => some n
  | setThrough p _ | exchangeThrough p _ => if p.fitsFlexible then some p.name else none
  | set _ _ | exchange _ _ | erase _ | clear => none

/-- Whether a name is gone after the change. -/
def removes (name : String) : Edit → Bool
  | erase n => n == name
  | clear => true
  | put _ _ | set _ _ | exchange _ _ | setThrough _ _ | exchangeThrough _ _ | define _ _ => false

/-- The value that the change stores under a name that is there. -/
def stored? (name : String) : Edit → Option Value
  | put n v | set n v | exchange n v => if n = name then some v else none
  | setThrough p v | exchangeThrough p v =>
    if p.fitsFlexible then if p.name = name then some v else none else none
  | define _ _ | erase _ | clear => none

/-- The type that the change declares for a name. -/
def declared? (name : String) : Edit → Option ResolvedType
  | define n t => if n = name then some t else none
  | put _ _ | set _ _ | exchange _ _ | setThrough _ _ | exchangeThrough _ _ | erase _ | clear => none

/-- The names after the change: those that are left, and then a new one. -/
def namesAfter (e : Edit) (names : List String) : List String :=
  let kept := names.filter fun n => !e.removes n
  match e.brings? with
  | some n => if n ∈ kept then kept else kept ++ [n]
  | none => kept

variable {e : Edit} {n m : String}

/-- What brings a name removes none. -/
lemma removes_of_brings (h : e.brings? = some n) (m : String) : e.removes m = false := by
  cases e with
  | erase | clear => cases h
  | _ => rfl

/-- Declaring a type brings the name. -/
lemma brings_of_declared {t : ResolvedType} (h : e.declared? n = some t) : e.brings? = some n := by
  cases e with
  | define m t =>
    simp only [declared?] at h
    split at h
    · next hname => exact congrArg some hname
    · cases h
  | _ => cases h

/-- A name is there after the change if it was left, or if it is brought. -/
lemma mem_namesAfter {names : List String} :
    n ∈ e.namesAfter names ↔ (n ∈ names ∧ e.removes n = false) ∨ e.brings? = some n := by
  have hkept : n ∈ (names.filter fun n => !e.removes n) ↔ n ∈ names ∧ e.removes n = false := by simp
  rw [← hkept, namesAfter]
  generalize (names.filter fun n => !e.removes n) = kept
  cases e.brings? with
  | none => simp
  | some m =>
    change n ∈ (if m ∈ kept then kept else kept ++ [m]) ↔ _
    by_cases hm : m ∈ kept
    · rw [if_pos hm, Option.some.injEq]
      constructor
      · intro h
        exact .inl h
      · rintro (h | rfl)
        · exact h
        · exact hm
    · rw [if_neg hm, mem_append, mem_singleton, Option.some.injEq, eq_comm (a := n)]

end Edit

/-! ## What a change does -/

variable {types types' : List (String × ResolvedType)} {fields fields' : List (String × Value)}
  {name : String} {v : Value} {e : Edit} {n : String}

/-- The names after a value is stored: a new name comes last. -/
lemma names_putField_eq {α : Type} (name : String) (a : α) (items : List (String × α)) :
    (putField name a items).map Prod.fst =
      if name ∈ items.map Prod.fst then items.map Prod.fst else items.map Prod.fst ++ [name] := by
  split
  · next h => exact names_putField a h
  · next h => rw [putField_of_not_mem h, map_append, map_singleton]

/-- The names after one is taken away. -/
lemma names_eraseField {α : Type} (name : String) (items : List (String × α)) :
    (eraseField name items).map Prod.fst = (items.map Prod.fst).filter (· != name) := by
  rw [eraseField, filter_map]
  rfl

/-- What a change makes of values and types: which names are left, what each holds, and of which type it
is declared. -/
structure Edit.Effect (e : Edit) (types : List (String × ResolvedType))
    (fields : List (String × Value)) (types' : List (String × ResolvedType))
    (fields' : List (String × Value)) : Prop where
  names : fields'.map Prod.fst = e.namesAfter (fields.map Prod.fst)
  value : ∀ n ∈ fields'.map Prod.fst,
    fields'.lookup n = some (((e.stored? n).or (fields.lookup n)).getD .null)
  nodup : (types.map Prod.fst).Nodup → (types'.map Prod.fst).Nodup
  declared : ∀ n, types'.lookup n =
    if e.removes n then none else (e.declared? n).or (types.lookup n)

namespace Edit

/-- A change that stores a value under a name that is there or that it brings. -/
lemma effect_write (hremoves : ∀ m, e.removes m = false)
    (hbrings : e.brings? = some name ∨ e.brings? = none ∧ name ∈ fields.map Prod.fst)
    (hstored : ∀ m, e.stored? m = if name = m then some v else none)
    (hdeclared : ∀ m, e.declared? m = none) :
    e.Effect types fields types (putField name v fields) where
  names := by
    have hkept : (fields.map Prod.fst).filter (fun n => !e.removes n) = fields.map Prod.fst :=
      filter_eq_self.mpr fun n _ => by rw [hremoves, Bool.not_false]
    rw [names_putField_eq, namesAfter, hkept]
    rcases hbrings with h | ⟨h, hmem⟩
    · rw [h]
    · rw [h, if_pos hmem]
  value := by
    intro n hn
    rw [hstored]
    by_cases hname : name = n
    · rw [if_pos hname, ← hname, lookup_putField]
      rfl
    · have hn' : n ∈ fields.map Prod.fst := by
        rw [names_putField_eq] at hn
        split at hn
        · exact hn
        · rcases mem_append.mp hn with hn | hn
          · exact hn
          · exact absurd (mem_singleton.mp hn).symm hname
      obtain ⟨w, hw⟩ := exists_lookup hn'
      rw [if_neg hname, lookup_putField_of_ne (Ne.symm hname), hw]
      rfl
  nodup := id
  declared := by
    intro n
    rw [hremoves, hdeclared]
    rfl

/-- A change that does nothing. -/
lemma effect_idle (hremoves : ∀ m, e.removes m = false) (hbrings : e.brings? = none)
    (hstored : ∀ m ∈ fields.map Prod.fst, e.stored? m = none) (hdeclared : ∀ m, e.declared? m = none) :
    e.Effect types fields types fields where
  names := by
    rw [namesAfter, hbrings]
    exact (filter_eq_self.mpr fun n _ => by rw [hremoves, Bool.not_false]).symm
  value := by
    intro n hn
    obtain ⟨w, hw⟩ := exists_lookup hn
    rw [hstored n hn, hw]
    rfl
  nodup := id
  declared := by
    intro n
    rw [hremoves, hdeclared]
    rfl

/-- A declared property comes last, if it is new. -/
lemma defined_eq (name : String) (fields : List (String × Value)) :
    (if (fields.lookup name).isSome then fields else putField name .null fields) =
      if name ∈ fields.map Prod.fst then fields else fields ++ [(name, .null)] := by
  by_cases hmem : name ∈ fields.map Prod.fst
  · obtain ⟨w, hw⟩ := exists_lookup hmem
    rw [if_pos hmem, hw]
    rfl
  · rw [if_neg hmem, lookup_of_not_mem hmem, putField_of_not_mem hmem]
    rfl

/-- Declaring a property keeps its value, if it has one. -/
lemma effect_define (type : ResolvedType) :
    (define name type).Effect types fields (putField name type types)
      (if (fields.lookup name).isSome then fields else putField name .null fields) where
  names := by
    have hkept : (fields.map Prod.fst).filter (fun n => !(define name type).removes n) =
        fields.map Prod.fst := filter_eq_self.mpr fun n _ => rfl
    rw [defined_eq, namesAfter, hkept]
    change _ = if name ∈ fields.map Prod.fst then _ else _
    split
    · rfl
    · rw [map_append, map_singleton]
  value := by
    intro n hn
    change _ = some ((fields.lookup n).getD .null)
    rw [defined_eq] at hn ⊢
    by_cases hold : n ∈ fields.map Prod.fst
    · obtain ⟨w, hw⟩ := exists_lookup hold
      rw [hw]
      split
      · exact hw
      · rw [lookup_append, hw]
        rfl
    · rw [lookup_of_not_mem hold]
      split at hn
      · exact absurd hn hold
      · next hnew =>
        -- then it is the one that is declared
        have hname : n = name := by
          rw [map_append, mem_append] at hn
          exact mem_singleton.mp (hn.resolve_left hold)
        rw [if_neg hnew, lookup_append, lookup_of_not_mem hold, hname, lookup_cons_self]
        rfl
  nodup := by
    intro hnodup
    rw [names_putField_eq]
    split
    · exact hnodup
    · next hnew => exact hnodup.append (nodup_singleton name) (by simpa using hnew)
  declared := by
    intro n
    change _ = (if name = n then some type else none).or (types.lookup n)
    by_cases hname : name = n
    · rw [if_pos hname, ← hname, lookup_putField]
      rfl
    · rw [if_neg hname, lookup_putField_of_ne (Ne.symm hname)]
      rfl

/-- Removing a property removes its declared type, too. -/
lemma effect_erase (name : String) :
    (erase name).Effect types fields (eraseField name types) (eraseField name fields) where
  names := by
    rw [names_eraseField, namesAfter]
    refine filter_congr fun n _ => ?_
    change (n != name) = !(name == n)
    rw [bne, BEq.comm]
  value := by
    intro n hn
    rw [names_eraseField, mem_filter, bne_iff_ne] at hn
    obtain ⟨w, hw⟩ := exists_lookup hn.1
    rw [lookup_eraseField_of_ne hn.2]
    change _ = some ((fields.lookup n).getD .null)
    rw [hw]
    rfl
  nodup := by
    intro hnodup
    rw [names_eraseField]
    exact hnodup.filter _
  declared := by
    intro n
    change _ = if (name == n) = true then none else types.lookup n
    by_cases hname : n = name
    · have hnot : n ∉ (eraseField name types).map Prod.fst := by simp [names_eraseField, hname]
      rw [lookup_of_not_mem hnot, if_pos (beq_iff_eq.mpr hname.symm)]
    · rw [lookup_eraseField_of_ne hname, if_neg (by simpa using Ne.symm hname)]

/-- Nothing is left after all is removed. -/
lemma effect_clear : clear.Effect types fields [] [] where
  names := (filter_eq_nil_iff.mpr fun _ _ => Bool.false_ne_true).symm
  value := by
    intro n hn
    cases hn
  nodup := fun _ => nodup_nil
  declared := fun _ => rfl

end Edit

/-! ## Setting properties -/

/-- The property that entries show under a name. -/
lemma find?_ofEntry (type : BeanType) (typeOf : String → ResolvedType) (names : List String)
    (name : String) :
    (names.map fun m => MetaProperty.ofEntry type m (typeOf m)).find? (fun p => p.name == name) =
      if name ∈ names then some (.ofEntry type name (typeOf name)) else none := by
  induction names with
  | nil => rfl
  | cons m names ih =>
    rw [map_cons, find?_cons]
    change (match m == name with | true => _ | false => _) = _
    by_cases hm : m = name
    · rw [hm, beq_self_eq_true, if_pos mem_cons_self]
    · rw [beq_false_of_ne hm, ih]
      simp [Ne.symm hm]

section

variable (types : List (String × ResolvedType)) (fields : List (String × Value))

/-- What a bean in insertion order tells of a property, if its names are different. -/
lemma metaProperty_flexible (hnodup : (fields.map Prod.fst).Nodup) (name : String) :
    Bean.metaProperty ⟨.flexible types, fields⟩ name =
      if name ∈ fields.map Prod.fst then
        .ok (.ofEntry flexibleType name ((types.lookup name).getD .any))
      else .error (.noSuchProperty flexibleType.name name) := by
  have hfind : (Bean.table ⟨.flexible types, fields⟩).find? name =
      if name ∈ fields.map Prod.fst then
        some (.ofEntry flexibleType name ((types.lookup name).getD .any)) else none := by
    rw [Bean.table, BeanKind.table_flexible types hnodup, PropertyMap.find?, PropertyMap.named?,
      find?_ofEntry]
    split <;> rfl
  rw [Bean.metaProperty, hfind]
  by_cases hname : name ∈ fields.map Prod.fst
  · rw [if_pos hname, if_pos hname]
  · rw [if_neg hname, if_neg hname]
    rfl

/-- Setting through a description stores the value, unless the description is of other beans or of a
property that cannot be set. -/
lemma set_flexible (p : MetaProperty) (v : Value) :
    (p.set ⟨.flexible types, fields⟩ v).toOption =
      if p.fitsFlexible then some ⟨.flexible types, putField p.name v fields⟩ else none := by
  have htype : (BeanOf.mk (.flexible types) fields).type = flexibleType := rfl
  rw [MetaProperty.fitsFlexible, MetaProperty.set, MetaProperty.checkBean, htype]
  cases p.settable <;> cases p.isInherited <;> cases flexibleType.same p.holder <;> rfl

/-- Asking for the old value does not matter. -/
lemma exchange_flexible (p : MetaProperty) (v : Value) :
    (p.put ⟨.flexible types, fields⟩ v).toOption.map Prod.snd =
      (p.set ⟨.flexible types, fields⟩ v).toOption := by
  by_cases hholder : flexibleType.same p.holder = true
  · have hget : p.get ⟨.flexible types, fields⟩ = .ok ((fields.lookup p.name).getD .null) := by
      rw [MetaProperty.get, MetaProperty.checkBean]
      change (if flexibleType.same p.holder = true then Except.ok () else _) >>= _ = _
      rw [if_pos hholder]
      rfl
    rw [MetaProperty.put, hget, ok_bind]
    cases p.set ⟨.flexible types, fields⟩ v <;> rfl
  · have hget : ∃ e, p.get ⟨.flexible types, fields⟩ = .error e := by
      rw [MetaProperty.get, MetaProperty.checkBean]
      change ∃ e, (if flexibleType.same p.holder = true then Except.ok () else .error _) >>= _ = _
      rw [if_neg hholder]
      exact ⟨_, rfl⟩
    obtain ⟨err, hget⟩ := hget
    have hfits : ¬ p.fitsFlexible = true := by simp [MetaProperty.fitsFlexible, hholder]
    rw [set_flexible, if_neg hfits, MetaProperty.put, hget]
    rfl

end

namespace Edit

/-- Setting through a description does as much as putting a value, or nothing. -/
lemma effect_setThrough (p : MetaProperty) (v : Value) (types : List (String × ResolvedType))
    (fields : List (String × Value)) :
    ∃ types' fields', (setThrough p v).apply ⟨.flexible types, fields⟩ = ⟨.flexible types', fields'⟩ ∧
      (setThrough p v).Effect types fields types' fields' := by
  rw [apply, set_flexible]
  by_cases hfits : p.fitsFlexible = true
  · rw [if_pos hfits]
    refine ⟨types, putField p.name v fields, rfl, effect_write (fun _ => rfl) (.inl ?_) ?_ fun _ => rfl⟩
    · exact if_pos hfits
    · exact fun m => if_pos hfits
  · rw [if_neg hfits]
    refine ⟨types, fields, rfl, effect_idle (fun _ => rfl) ?_ ?_ fun _ => rfl⟩
    · exact if_neg hfits
    · exact fun m _ => if_neg hfits

/-- Setting by name does so through the description of the property, if there is one. -/
lemma effect_set (hnodup : (fields.map Prod.fst).Nodup) (name : String) (v : Value)
    (types : List (String × ResolvedType)) :
    ∃ types' fields', (set name v).apply ⟨.flexible types, fields⟩ = ⟨.flexible types', fields'⟩ ∧
      (set name v).Effect types fields types' fields' := by
  rw [apply, Bean.set, metaProperty_flexible types fields hnodup]
  by_cases hname : name ∈ fields.map Prod.fst
  · rw [if_pos hname, ok_bind, set_flexible]
    exact ⟨types, putField name v fields, rfl,
      effect_write (fun _ => rfl) (.inr ⟨rfl, hname⟩) (fun _ => rfl) fun _ => rfl⟩
  · rw [if_neg hname]
    refine ⟨types, fields, rfl, effect_idle (fun _ => rfl) rfl (fun m hm => ?_) fun _ => rfl⟩
    exact if_neg fun h : name = m => hname (h ▸ hm)

/-- Asking for the old value, too, changes nothing else. -/
lemma apply_exchange (name : String) (v : Value) (types : List (String × ResolvedType))
    (fields : List (String × Value)) :
    (exchange name v).apply ⟨.flexible types, fields⟩ = (set name v).apply ⟨.flexible types, fields⟩ := by
  rw [apply, apply, Bean.put, Bean.set]
  cases Bean.metaProperty ⟨.flexible types, fields⟩ name with
  | error e => rfl
  | ok p => rw [ok_bind, ok_bind, exchange_flexible]

/-- **What a change does**: one case for each kind of change. -/
theorem effect_apply (e : Edit) (hnodup : (fields.map Prod.fst).Nodup)
    (types : List (String × ResolvedType)) :
    ∃ types' fields', e.apply ⟨.flexible types, fields⟩ = ⟨.flexible types', fields'⟩ ∧
      e.Effect types fields types' fields' := by
  cases e with
  | put name v =>
    exact ⟨types, putField name v fields, rfl,
      effect_write (fun _ => rfl) (.inl rfl) (fun _ => rfl) fun _ => rfl⟩
  | set name v => exact effect_set hnodup name v types
  | exchange name v =>
    obtain ⟨types', fields', happly, heffect⟩ := effect_set hnodup name v types
    exact ⟨types', fields', (apply_exchange name v types fields).trans happly,
      ⟨heffect.names, heffect.value, heffect.nodup, heffect.declared⟩⟩
  | setThrough p v => exact effect_setThrough p v types fields
  | exchangeThrough p v =>
    obtain ⟨types', fields', happly, heffect⟩ := effect_setThrough p v types fields
    have hsame : (exchangeThrough p v).apply ⟨.flexible types, fields⟩ =
        (setThrough p v).apply ⟨.flexible types, fields⟩ := by
      rw [apply, apply, exchange_flexible]
    exact ⟨types', fields', hsame.trans happly,
      ⟨heffect.names, heffect.value, heffect.nodup, heffect.declared⟩⟩
  | define name type => exact ⟨_, _, rfl, effect_define type⟩
  | erase name => exact ⟨_, _, rfl, effect_erase name⟩
  | clear => exact ⟨[], [], rfl, effect_clear⟩

end Edit

/-! ## What is left of the changes -/

/-- The changes since a name came for the last time, that one included; none if the name is absent. -/
def presence (name : String) (edits : List Edit) : List Edit :=
  (edits.rtakeWhile fun e => !e.removes name).dropWhile fun e => !decide (e.brings? = some name)

/-- What is told by the last of the changes that tells anything. -/
def latest {α : Type} (told : Edit → Option α) (edits : List Edit) : Option α :=
  edits.reverse.findSome? told

/-- What a store owes to the changes that were made to it. -/
structure Recalls (edits : List Edit) (types : List (String × ResolvedType))
    (fields : List (String × Value)) : Prop where
  /-- The names are those that came and were not removed since. -/
  present : ∀ n, n ∈ fields.map Prod.fst ↔ presence n edits ≠ []
  /-- They stand in the order in which they came. -/
  ordered : (fields.map Prod.fst).Pairwise fun m n =>
    (presence n edits).length < (presence m edits).length
  /-- Each holds the value that was stored last. -/
  value : ∀ n ∈ fields.map Prod.fst,
    fields.lookup n = some ((latest (Edit.stored? n) (presence n edits)).getD .null)
  /-- No name has two declared types. -/
  nodup : (types.map Prod.fst).Nodup
  /-- The declared type of a name is the one that was declared last. -/
  declared : ∀ n, types.lookup n = latest (Edit.declared? n) (presence n edits)

/-- One more change ends the presence of a name, starts it, or goes on with it. -/
lemma presence_concat (n : String) (edits : List Edit) (e : Edit) :
    presence n (edits ++ [e]) =
      if e.removes n then []
      else if presence n edits = [] then if e.brings? = some n then [e] else []
      else presence n edits ++ [e] := by
  rw [presence, rtakeWhile_concat]
  by_cases hremoves : e.removes n = true
  · simp [hremoves]
  · rw [if_neg hremoves, if_pos (by simpa using hremoves), dropWhile_append, presence]
    generalize (edits.rtakeWhile fun e => !e.removes n).dropWhile
      (fun e => !decide (e.brings? = some n)) = before
    cases before with
    | nil =>
      by_cases hbrings : e.brings? = some n
      · simp [hbrings]
      · simp [hbrings]
    | cons => rfl

lemma latest_concat {α : Type} (told : Edit → Option α) (edits : List Edit) (e : Edit) :
    latest told (edits ++ [e]) = (told e).or (latest told edits) := by
  rw [latest, reverse_concat, findSome?_cons]
  cases told e <;> rfl

namespace Recalls

variable {edits : List Edit}

/-- Names that stand in order are different. -/
lemma nodup_names (h : Recalls edits types fields) : (fields.map Prod.fst).Nodup := by
  refine h.ordered.imp fun {m n} hlt hname => ?_
  rw [hname] at hlt
  exact Nat.lt_irrefl _ hlt

/-- Types are declared of names that are there. -/
lemma subset_names (h : Recalls edits types fields) :
    types.map Prod.fst ⊆ fields.map Prod.fst := by
  intro n hn
  obtain ⟨t, ht⟩ := exists_lookup hn
  rw [h.declared] at ht
  refine (h.present n).mpr fun hempty => ?_
  rw [hempty] at ht
  cases ht

/-- A name that was there and is not removed stays. -/
lemma presence_of_mem (h : Recalls edits types fields) (hn : n ∈ fields.map Prod.fst)
    (hremoves : e.removes n = false) : presence n (edits ++ [e]) = presence n edits ++ [e] := by
  rw [presence_concat, hremoves, if_neg Bool.false_ne_true, if_neg ((h.present n).mp hn)]

/-- A name that was not there is there if it is brought. -/
lemma presence_of_not_mem (h : Recalls edits types fields) (hn : n ∉ fields.map Prod.fst) :
    presence n (edits ++ [e]) = if e.brings? = some n then [e] else [] := by
  have hempty : presence n edits = [] := not_not.mp (mt (h.present n).mpr hn)
  rw [presence_concat, if_pos hempty]
  by_cases hbrings : e.brings? = some n
  · rw [if_pos hbrings, Edit.removes_of_brings hbrings, if_neg Bool.false_ne_true]
  · rw [if_neg hbrings, ite_self]

/-- The names that are left stand in the order in which they came, and a new one came last.

**Proof sketch.** The order of names is told by how long they have been there: one that stays has
been there for one more change, and a new one for this change only. -/
lemma pairwise_namesAfter (h : Recalls edits types fields) (e : Edit) :
    (e.namesAfter (fields.map Prod.fst)).Pairwise fun m n =>
      (presence n (edits ++ [e])).length < (presence m (edits ++ [e])).length := by
  have hkept : ((fields.map Prod.fst).filter fun n => !e.removes n).Pairwise fun m n =>
      (presence n (edits ++ [e])).length < (presence m (edits ++ [e])).length := by
    refine (h.ordered.filter _).imp_of_mem fun {m n} hm hn hlt => ?_
    obtain ⟨hm, hremovesm⟩ := mem_filter.mp hm
    obtain ⟨hn, hremovesn⟩ := mem_filter.mp hn
    rw [h.presence_of_mem hm (by simpa using hremovesm),
      h.presence_of_mem hn (by simpa using hremovesn), length_append, length_append]
    omega
  rw [Edit.namesAfter]
  cases hbrings : e.brings? with
  | none => exact hkept
  | some new =>
    change (if new ∈ _ then _ else _ ++ [new]).Pairwise _
    split
    · exact hkept
    · next hnew =>
      refine pairwise_append.mpr ⟨hkept, pairwise_singleton _ new, fun m hm n hn => ?_⟩
      obtain rfl := mem_singleton.mp hn
      obtain ⟨hm, hremoves⟩ := mem_filter.mp hm
      have hold : n ∉ fields.map Prod.fst := fun hn => hnew <|
        mem_filter.mpr ⟨hn, by rw [Edit.removes_of_brings hbrings]; rfl⟩
      have hpos : 0 < (presence m edits).length := length_pos_iff.mpr ((h.present m).mp hm)
      rw [h.presence_of_not_mem hold, if_pos hbrings, h.presence_of_mem hm (by simpa using hremoves),
        length_append, length_singleton]
      omega

/-- The names after a change are those that are present then. -/
lemma mem_namesAfter_iff (h : Recalls edits types fields) (e : Edit) (n : String) :
    n ∈ e.namesAfter (fields.map Prod.fst) ↔ presence n (edits ++ [e]) ≠ [] := by
  rw [Edit.mem_namesAfter]
  by_cases hn : n ∈ fields.map Prod.fst
  · cases hremoves : e.removes n with
    | true =>
      have hbrings : e.brings? ≠ some n := by
        intro hbrings
        rw [Edit.removes_of_brings hbrings] at hremoves
        cases hremoves
      simp [presence_concat, hremoves, hbrings]
    | false => simp [h.presence_of_mem hn hremoves, hn]
  · rw [h.presence_of_not_mem hn]
    by_cases hbrings : e.brings? = some n
    · simp [hbrings]
    · simp [hbrings, hn]

/-- The last value of a name that is present after a change: that of the change, or the one before. -/
lemma latest_stored (h : Recalls edits types fields)
    (hn : n ∈ e.namesAfter (fields.map Prod.fst)) :
    ((e.stored? n).or (fields.lookup n)).getD .null =
      (latest (Edit.stored? n) (presence n (edits ++ [e]))).getD .null := by
  rw [Edit.mem_namesAfter] at hn
  by_cases hold : n ∈ fields.map Prod.fst
  · have hremoves : e.removes n = false := by
      rcases hn with ⟨-, hremoves⟩ | hbrings
      · exact hremoves
      · exact Edit.removes_of_brings hbrings n
    rw [h.presence_of_mem hold hremoves, latest_concat, h.value n hold]
    cases e.stored? n <;> rfl
  · have hbrings : e.brings? = some n := hn.resolve_left fun hn => hold hn.1
    rw [h.presence_of_not_mem hold, if_pos hbrings, lookup_of_not_mem hold, Option.or_none]
    cases hstored : e.stored? n <;> simp [latest, hstored]

/-- The last declared type of a name after a change: that of the change, or the one before, unless the
name is removed. -/
lemma latest_declared (h : Recalls edits types fields) (e : Edit) (n : String) :
    (if e.removes n then none else (e.declared? n).or (types.lookup n)) =
      latest (Edit.declared? n) (presence n (edits ++ [e])) := by
  rw [h.declared]
  by_cases hold : n ∈ fields.map Prod.fst
  · cases hremoves : e.removes n with
    | true =>
      rw [presence_concat, hremoves]
      rfl
    | false =>
      rw [h.presence_of_mem hold hremoves, latest_concat]
      rfl
  · have hempty : presence n edits = [] := not_not.mp (mt (h.present n).mpr hold)
    rw [h.presence_of_not_mem hold, hempty]
    by_cases hbrings : e.brings? = some n
    · rw [if_pos hbrings, Edit.removes_of_brings hbrings]
      cases hdeclared : e.declared? n <;> simp [latest, hdeclared]
    · have hdeclared : e.declared? n = none :=
        Option.eq_none_iff_forall_ne_some.mpr fun t ht => hbrings (Edit.brings_of_declared ht)
      rw [if_neg hbrings, hdeclared, Option.none_or]
      exact ite_self _

/-- **One more change is recalled, too.** -/
theorem concat (h : Recalls edits types fields) (heffect : e.Effect types fields types' fields') :
    Recalls (edits ++ [e]) types' fields' where
  present := by
    intro n
    rw [heffect.names]
    exact h.mem_namesAfter_iff e n
  ordered := by
    rw [heffect.names]
    exact h.pairwise_namesAfter e
  value := by
    intro n hn
    rw [heffect.value n hn]
    rw [heffect.names] at hn
    exact congrArg some (h.latest_stored hn)
  nodup := heffect.nodup h.nodup
  declared := by
    intro n
    rw [heffect.declared]
    exact h.latest_declared e n

end Recalls

/-- **All changes of an empty bean are recalled.** -/
theorem recalls_edited (edits : List Edit) :
    ∃ types fields, Bean.edited edits = ⟨.flexible types, fields⟩ ∧ Recalls edits types fields := by
  induction edits using List.reverseRecOn with
  | nil =>
    refine ⟨[], [], rfl, ⟨fun n => ?_, .nil, fun n hn => ?_, nodup_nil, fun n => rfl⟩⟩
    · simp [presence]
    · cases hn
  | append_singleton edits e ih =>
    obtain ⟨types, fields, hedited, hrecalls⟩ := ih
    obtain ⟨types', fields', happly, heffect⟩ := e.effect_apply hrecalls.nodup_names types
    refine ⟨types', fields', ?_, hrecalls.concat heffect⟩
    rw [Bean.edited, foldl_append, foldl_cons, foldl_nil, ← happly, ← hedited]
    rfl

/-- What a bean tells of a property and holds under it. -/
lemma get_flexible (types : List (String × ResolvedType)) (hnodup : (fields.map Prod.fst).Nodup)
    (name : String) : Bean.get ⟨.flexible types, fields⟩ name =
      if name ∈ fields.map Prod.fst then .ok ((fields.lookup name).getD .null)
      else .error (.noSuchProperty flexibleType.name name) := by
  rw [Bean.get, metaProperty_flexible types fields hnodup]
  by_cases hname : name ∈ fields.map Prod.fst
  · rw [if_pos hname, if_pos hname]
    rfl
  · rw [if_neg hname, if_neg hname]
    rfl

/-- **What a bean holds and shows after any changes.** Its names are different and have come in their
order; types are declared of its names only; each name holds the value that was stored last, or nothing
if it was only declared. The properties can always be described, so that the bean never looks empty when
it is not: there is one for each name, in the same order, of the type that was declared last, or of the
top type.

**Proof sketch.** `recalls_edited` says what the fields and the declared types are. The table has
one property for each field, and what is got is looked up among the fields. -/
theorem edited_recalls (edits : List Edit) :
    let valueOf (n : String) : Value := (latest (Edit.stored? n) (presence n edits)).getD .null
    let typeOf (n : String) : ResolvedType := (latest (Edit.declared? n) (presence n edits)).getD .any
    let b := Bean.edited edits
    ∃ types fields, b = ⟨.flexible types, fields⟩ ∧ Recalls edits types fields ∧
      (fields.map Prod.fst).Nodup ∧ types.map Prod.fst ⊆ fields.map Prod.fst ∧
      snapshot? flexibleType (declaredEntries types (fields.map Prod.fst)) = .ok b.table ∧
      b.table.properties = (fields.map Prod.fst).map (fun n => .ofEntry flexibleType n (typeOf n)) ∧
      b.table.aliases = [] ∧
      (∀ p ∈ b.table.properties, ∀ context,
        (ResolvedType.resolve p.generic context).same (typeOf p.name) = true) ∧
      ∀ n, b.get n =
        if presence n edits = [] then .error (.noSuchProperty flexibleType.name n)
        else .ok (valueOf n) := by
  intro valueOf typeOf b
  obtain ⟨types, fields, hb, hrecalls⟩ := recalls_edited edits
  have hnodup := hrecalls.nodup_names
  have htable : b.table =
      ⟨(fields.map Prod.fst).map fun n => .ofEntry flexibleType n (typeOf n), []⟩ := by
    change (Bean.edited edits).table = _
    rw [hb, Bean.table, BeanKind.table_flexible types hnodup]
    simp only [hrecalls.declared]
    rfl
  have hsnapshot : snapshot? flexibleType (declaredEntries types (fields.map Prod.fst)) =
      .ok b.table := by
    change _ = Except.ok (Bean.edited edits).table
    rw [hb]
    exact BeanKind.snapshot?_flexible types hnodup
  refine ⟨types, fields, hb, hrecalls, hnodup, hrecalls.subset_names, hsnapshot, ?_, ?_, ?_, ?_⟩
  · rw [htable]
  · rw [htable]
  · intro p hp context
    rw [htable] at hp
    obtain ⟨n, -, rfl⟩ := mem_map.mp hp
    exact ResolvedType.same_ofGeneric_toGeneric _ (typeOf n)
  · intro n
    change (Bean.edited edits).get n = _
    rw [hb, get_flexible types hnodup]
    by_cases hn : n ∈ fields.map Prod.fst
    · rw [if_pos hn, if_neg ((hrecalls.present n).mp hn), hrecalls.value n hn]
      rfl
    · rw [if_neg hn, if_pos (not_not.mp (mt (hrecalls.present n).mpr hn))]

/-- A removed property comes back, at the end, when it is set through a description of before. -/
example :
    let before := MetaProperty.ofEntry flexibleType "a" .any
    (Bean.edited [.put "a" (.bool true), .define "b" .any, .erase "a", .set "a" (.bool false),
      .setThrough before .null]).propertyNames = ["b", "a"] := by cbv

end Beans
