import Mathlib.Tactic.Common
import Beans.Proofs.Types.Bindings
import Beans.Proofs.Types.Spelling

/-!
# The number of arguments

A resolved type has no arguments or one for each parameter, and so have its arguments. Making one from
a type and arguments checks their number; resolving a written type does not, and neither does taking
the component of an array. What they make is complete if what they are given is.

## Main definitions

* `Beans.ResolvedType.Complete` — no arguments or one for each parameter, at any depth.
* `Beans.GenericType.Complete`, `Beans.TypeInfo.Complete` — the same for what is written in a type, and
  in what a type extends.
* `Beans.ResolvedType.Obtained` — the types that can be made by any operations.

## Main results

* `Beans.ResolvedType.complete_resolve` — complete types are resolved to complete types.
* `Beans.ResolvedType.complete_of_obtained` — the invariant, and which steps it depends on.
-/

set_option autoImplicit false

namespace Beans

/-! ## Complete types -/

/-- There are no arguments, or one for each parameter of the type. -/
def TypeInfo.Takes {α : Type} (raw : TypeInfo) (args : List α) : Prop :=
  args = [] ∨ args.length = raw.params.length

/-- The parameters of an array besides those of its component. -/
def TypeInfo.ownParams : TypeInfo → List TypeVariable
  | declared .. => []
  | array _ own _ => own

/-- A type with no arguments or one for each parameter, and so have its arguments. -/
inductive ResolvedType.Complete : ResolvedType → Prop
  | mk {raw : TypeInfo} {args : List ResolvedType} (htakes : raw.Takes args)
      (hargs : ∀ a ∈ args, Complete a) : Complete (.mk raw args)

/-- A written type in which every type with arguments has one for each parameter, or none. Of several
bounds, only the first one counts. -/
inductive GenericType.Complete : GenericType → Prop
  | plain (raw : TypeInfo) : Complete (.plain raw)
  | applied {raw : TypeInfo} {args : List GenericType} (htakes : raw.Takes args)
      (hargs : ∀ a ∈ args, Complete a) : Complete (.applied raw args)
  | array {component : GenericType} (h : Complete component) : Complete (.array component)
  | param {declarer name : String} {bounds : List GenericType}
      (hbound : ∀ b ∈ bounds.head?, Complete b) : Complete (.param (.of declarer name bounds))
  | wildcard {upper lower : List GenericType} (hbound : ∀ b ∈ upper.head?, Complete b) :
      Complete (.wildcard upper lower)

/-- A type of which all supertypes, and theirs, have complete arguments. -/
inductive TypeInfo.Complete : TypeInfo → Prop
  | intro {t : TypeInfo}
      (hargs : ∀ s ∈ t.supertypes, ∀ raw args, s.edge? = some (raw, args) → ∀ a ∈ args, a.Complete)
      (hraw : ∀ s ∈ t.supertypes, ∀ raw args, s.edge? = some (raw, args) → Complete raw) : Complete t

namespace ResolvedType

variable {t u : ResolvedType} {raw : TypeInfo} {args : List ResolvedType}

@[simp]
lemma complete_mk_iff : (mk raw args).Complete ↔ raw.Takes args ∧ ∀ a ∈ args, a.Complete := by
  constructor
  · intro h
    cases h with
    | mk htakes hargs => exact ⟨htakes, hargs⟩
  · rintro ⟨htakes, hargs⟩
    exact .mk htakes hargs

/-! ## Making types -/

/-- Without arguments every type is complete. -/
lemma complete_ofRaw (raw : TypeInfo) : (ofRaw raw).Complete := .mk (.inl rfl) (by simp)

/-- The number of arguments is checked. -/
lemma complete_of_of? (hargs : ∀ a ∈ args, a.Complete) (h : of? raw args = .ok t) : t.Complete := by
  unfold of? at h
  split at h
  · next hcheck =>
    obtain rfl := Except.ok.inj h
    refine .mk ?_ hargs
    simpa [TypeInfo.Takes] using hcheck
  · cases h

lemma complete_of_ofFlat? {flat : List TypeInfo} (h : ofFlat? raw flat = .ok t) : t.Complete := by
  refine complete_of_of? (fun a ha => ?_) h
  obtain ⟨arg, -, rfl⟩ := List.mem_map.mp ha
  exact complete_ofRaw arg

/-- An array takes the arguments of its component. -/
lemma complete_toArray (h : t.Complete) : t.toArray.Complete := by
  obtain ⟨raw, args⟩ := t
  rw [complete_mk_iff] at h
  have hparams : raw.arrayOf.params = raw.params := List.append_nil _
  change (mk raw.arrayOf args).Complete
  rw [complete_mk_iff, TypeInfo.Takes, hparams]
  exact h

/-- **The component of an array takes its arguments**, unless they are for parameters that it has not. -/
lemma complete_component_iff (h : t.Complete) (hu : t.component? = some u) :
    u.Complete ↔ t.raw.ownParams = [] ∨ t.args = [] := by
  obtain ⟨raw, args⟩ := t
  rw [complete_mk_iff] at h
  cases raw with
  | declared name primitive params supertypes => cases hu
  | array component own supertypes =>
    obtain rfl : mk component args = u := Option.some.inj hu
    rw [complete_mk_iff]
    simp only [TypeInfo.Takes, TypeInfo.params, List.length_append] at h ⊢
    change _ ↔ own = [] ∨ args = []
    constructor
    · rintro ⟨hempty | hlength, -⟩
      · exact .inr hempty
      · rcases h.1 with hempty | hall
        · exact .inr hempty
        · exact .inl (List.eq_nil_of_length_eq_zero (by omega))
    · rintro (rfl | rfl)
      · exact ⟨by simpa using h.1, h.2⟩
      · exact ⟨.inl rfl, h.2⟩

/-- An argument is complete, and so is the type that stands for an absent one. -/
lemma complete_argument (h : t.Complete) (index : Nat) : (t.argument index).Complete := by
  obtain ⟨raw, args⟩ := t
  rw [complete_mk_iff] at h
  change (args[index]?.getD any).Complete
  cases harg : args[index]? with
  | none => exact complete_ofRaw _
  | some a => exact h.2 a (List.mem_of_getElem? harg)

/-- What is assembled from types of a catalog is complete. -/
lemma Assembled.complete {c : Catalog} (h : t.Assembled c) : t.Complete := by
  induction h with
  | of _ _ h ih => exact complete_of_of? ih h
  | ofFlat _ _ h => exact complete_of_ofFlat? h
  | ofRaw => exact complete_ofRaw _
  | toArray _ ih => exact complete_toArray ih

/-! ## Resolving types -/

/-- All parameters stand for complete types. -/
def CompleteBindings (bs : Bindings) : Prop := ∀ b ∈ bs, b.2.Complete

/-- **An application is resolved to a complete type exactly if it has the right number of arguments**, and
they are resolved to complete types. -/
lemma complete_ofGeneric_applied_iff (bs : Bindings) (raw : TypeInfo) (args : List GenericType) :
    (ofGeneric bs (.applied raw args)).Complete ↔
      raw.Takes args ∧ ∀ a ∈ args, (ofGeneric bs a).Complete := by
  rw [ofGeneric, ofGenericAll_eq_map, complete_mk_iff, List.forall_mem_map]
  simp [TypeInfo.Takes]

/-- Complete types are resolved to complete types, if the parameters stand for such. -/
lemma complete_ofGeneric {bs : Bindings} (hbs : CompleteBindings bs) {g : GenericType}
    (hg : g.Complete) : (ofGeneric bs g).Complete := by
  have hfirst {bs : Bindings} {bounds : List GenericType}
      (h : ∀ b ∈ bounds.head?, (ofGeneric bs b).Complete) : (ofFirst bs bounds).Complete := by
    cases bounds with
    | nil => exact complete_ofRaw _
    | cons b bounds => exact h b rfl
  induction hg generalizing bs with
  | plain raw => exact complete_ofRaw raw
  | applied htakes _ ih =>
    exact (complete_ofGeneric_applied_iff bs _ _).mpr ⟨htakes, fun a ha => ih a ha hbs⟩
  | array _ ih => exact complete_toArray (ih hbs)
  | @param declarer name bounds _ ih =>
    rw [ofGeneric]
    cases hbound : bs.lookup (declarer, name) with
    | some t =>
      obtain ⟨before, after, rfl, -⟩ := List.lookup_eq_some_iff.mp hbound
      exact hbs _ (List.mem_append_right before List.mem_cons_self)
    | none => exact hfirst fun b hb => ih b hb (by simp [CompleteBindings])
  | wildcard _ ih => exact hfirst fun b hb => ih b hb hbs

/-- Binding parameters to complete arguments keeps all bindings complete. -/
lemma complete_addArguments {bs : Bindings} (hbs : CompleteBindings bs) (raw : TypeInfo)
    {args : List GenericType} (hargs : ∀ a ∈ args, a.Complete) :
    CompleteBindings (bs.addArguments raw args) := by
  have hadd {bs : Bindings} (hbs : CompleteBindings bs) (v : TypeVariable) {a : GenericType}
      (ha : a.Complete) : CompleteBindings (bs.add v a) := by
    rw [Bindings.add]
    split
    · exact hbs
    · intro b hb
      rcases List.mem_append.mp hb with hb | hb
      · exact hbs b hb
      · rw [List.mem_singleton.mp hb]
        exact complete_ofGeneric hbs ha
  have hpairs : ∀ p ∈ raw.params.zip args, p.2.Complete :=
    fun p hp => hargs p.2 (List.of_mem_zip hp).2
  rw [Bindings.addArguments]
  generalize raw.params.zip args = pairs at hpairs
  induction pairs generalizing bs with
  | nil => exact hbs
  | cons p pairs ih =>
    obtain ⟨hp, hpairs⟩ := List.forall_mem_cons.mp hpairs
    exact ih (hadd hbs p.1 hp) hpairs

/-- A walk through complete supertypes binds parameters to complete types. -/
lemma complete_bindings {context : TypeInfo} (h : context.Complete) (depth : Nat) {known : Bindings}
    (hknown : CompleteBindings known) : CompleteBindings (context.bindings depth known) := by
  induction h generalizing depth known with
  | intro hargs _ ih =>
    refine TypeInfo.bindings_keeps hknown fun s hs raw args hedge bs hbs => ?_
    exact ih s hs raw args hedge _ (complete_addArguments hbs raw (hargs s hs raw args hedge))

/-- **Complete types are resolved to complete types** in the context of complete ones. -/
theorem complete_resolve {g : GenericType} {context : TypeInfo} (hg : g.Complete)
    (hcontext : context.Complete) : (resolve g context).Complete :=
  complete_ofGeneric (complete_bindings hcontext 0 (by simp [CompleteBindings])) hg

/-! ## All operations -/

/-- The types that can be made with a catalog, where what is resolved is complete, and where the component
is not taken of an array that has arguments for parameters of its own. -/
inductive Obtained (c : Catalog) : ResolvedType → Prop
  | of {raw : TypeInfo} {args : List ResolvedType} {t : ResolvedType}
      (hargs : ∀ a ∈ args, Obtained c a) (h : of? raw args = .ok t) : Obtained c t
  | ofFlat {raw : TypeInfo} {args : List TypeInfo} {t : ResolvedType} (h : ofFlat? raw args = .ok t) :
      Obtained c t
  | ofRaw (raw : TypeInfo) : Obtained c (ofRaw raw)
  | resolve {g : GenericType} {context : TypeInfo} (hg : g.Complete) (hcontext : context.Complete) :
      Obtained c (resolve g context)
  | parse {text : String} {t : ResolvedType} (h : parse c text = .ok t) : Obtained c t
  | toRaw {t : ResolvedType} (ht : Obtained c t) : Obtained c t.toRaw
  | component {t u : ResolvedType} (ht : Obtained c t) (hu : t.component? = some u)
      (hown : t.raw.ownParams = [] ∨ t.args = []) : Obtained c u
  | toArray {t : ResolvedType} (ht : Obtained c t) : Obtained c t.toArray
  | argument {t : ResolvedType} (ht : Obtained c t) (index : Nat) : Obtained c (t.argument index)

/-- **Every type has no arguments or one for each parameter, at any depth**, however it is made. This depends
on two things that are not checked: an application in a written type must have no arguments or one for
each parameter, and an array whose component is taken must have no arguments for parameters of its
own. Where this is not so, what is made is not complete. -/
theorem complete_of_obtained (c : Catalog) :
    (∀ t, Obtained c t → t.Complete) ∧
    (∀ raw args context, (resolve (.applied raw args) context).Complete ↔
      raw.Takes args ∧ ∀ a ∈ args, (resolve a context).Complete) ∧
    ∀ t u : ResolvedType, t.Complete → t.component? = some u →
      (u.Complete ↔ t.raw.ownParams = [] ∨ t.args = []) := by
  refine ⟨fun t h => ?_, fun raw args context => ?_, fun t u ht hu => complete_component_iff ht hu⟩
  · induction h with
    | of _ h ih => exact complete_of_of? ih h
    | ofFlat h => exact complete_of_ofFlat? h
    | ofRaw raw => exact complete_ofRaw raw
    | resolve hg hcontext => exact complete_resolve hg hcontext
    | parse h => exact (assembled_of_parse h).complete
    | toRaw => exact complete_ofRaw _
    | component _ hu hown ih => exact (complete_component_iff ih hu).mpr hown
    | toArray _ ih => exact complete_toArray ih
    | argument _ index ih => exact complete_argument ih index
  · exact complete_ofGeneric_applied_iff _ raw args

/-- A parameter of a supertype inside of an array of maps, and the maps. -/
theorem complete_of_obtained_maps :
    let base := TypeInfo.generic "app::Base" ["T"]
    let texts := GenericType.applied (builtin "Vec") [.plain (builtin "String")]
    let sub := TypeInfo.declared "app::Sub" false [] [.applied base [texts]]
    let maps := GenericType.applied (builtin "HashMap")
      [.param (.of "app::Base" "T" []), .plain (builtin "i32")]
    let t := resolve (.array maps) sub
    t.display = "HashMap<Vec<String>, i32>[]" ∧ t.Complete ∧
      ∃ u, t.component? = some u ∧ u.display = "HashMap<Vec<String>, i32>" ∧ u.Complete := by
  intro base texts sub maps t
  have htexts : texts.Complete := .applied (.inr rfl) (by simp [GenericType.Complete.plain])
  have hsub : sub.Complete := by
    refine .intro (fun s hs raw args hedge => ?_) (fun s hs raw args hedge => ?_) <;>
      obtain rfl := List.mem_singleton.mp hs <;>
      obtain ⟨rfl, rfl⟩ := Prod.mk.inj (Option.some.inj hedge)
    · simpa using htexts
    · exact .intro (by simp [base, TypeInfo.generic, TypeInfo.supertypes])
        (by simp [base, TypeInfo.generic, TypeInfo.supertypes])
  have hmaps : maps.Complete := by
    refine .applied (.inr rfl) (List.forall_mem_cons.mpr ⟨.param (by simp), ?_⟩)
    simp [GenericType.Complete.plain]
  have ht : t.Complete :=
    (complete_of_obtained .empty).1 t (.resolve (.array hmaps) hsub)
  refine ⟨by cbv, ht, _, rfl, by cbv, ?_⟩
  exact ((complete_of_obtained .empty).2.2 t _ ht rfl).mpr (.inl rfl)

/-- A text type with an argument is resolved as it is written. -/
theorem not_complete_resolve_text :
    ¬ (resolve (.applied (builtin "String") [.plain (builtin "i32")]) .any).Complete := by
  intro h
  have htakes := ((complete_ofGeneric_applied_iff _ _ _).mp h).1
  simp [TypeInfo.Takes, builtin, builtin?, primitiveNames, plainNames, TypeInfo.ofName,
    TypeInfo.params] at htakes

end ResolvedType

end Beans
