import Mathlib.Data.List.Basic
import Mathlib.Tactic.Common
import Beans.Types.Resolved

/-!
# What supertypes bind

Resolving a type in the context of another one first walks the supertypes of the context and notes
what each parameter stands for. This file says what one step of the walk adds, and that a walk only
adds: what was noted first stays.

## Main definitions

* `Beans.GenericType.edge?` — the type that a supertype leads to, with its arguments.

## Main results

* `Beans.Bindings.lookup_add` — what binding one parameter adds.
* `Beans.TypeInfo.prefix_bindings` — a walk only adds to what is known.
-/

set_option autoImplicit false

namespace Beans

/-! ## Supertypes -/

/-- The type that a supertype leads to, with its arguments. Arrays, parameters and wildcards lead
nowhere. -/
def GenericType.edge? : GenericType → Option (TypeInfo × List GenericType)
  | plain raw => some (raw, [])
  | applied raw args => some (raw, args)
  | array _ | param _ | wildcard _ _ => none

/-- A supertype binds its parameters, then what its own supertypes bind. -/
lemma GenericType.bindings_eq (depth : Nat) (known : Bindings) (s : GenericType) :
    s.bindings depth known = match s.edge? with
      | some (raw, args) => raw.bindings (depth + 1) (known.addArguments raw args)
      | none => known := by
  cases s <;> rfl

/-- The supertypes are walked in their order, up to the greatest depth. -/
lemma TypeInfo.bindings_eq (depth : Nat) (known : Bindings) (t : TypeInfo) :
    t.bindings depth known = if maxDepth < depth then known
      else t.supertypes.foldl (fun known s => s.bindings depth known) known := by
  have hsuper (supertypes : List GenericType) (known : Bindings) :
      superBindings depth known supertypes =
        supertypes.foldl (fun known s => s.bindings depth known) known := by
    induction supertypes generalizing known with
    | nil => rfl
    | cons s supertypes ih => rw [superBindings, ih, List.foldl_cons]
  cases t <;> rw [TypeInfo.bindings, hsuper] <;> rfl

/-- The type to which a supertype leads is a part of the type that extends it. -/
lemma TypeInfo.sizeOf_lt_of_edge {t raw : TypeInfo} {s : GenericType} {args : List GenericType}
    (hs : s ∈ t.supertypes) (hedge : s.edge? = some (raw, args)) : sizeOf raw < sizeOf t := by
  have hraw : sizeOf raw < sizeOf s := by
    cases s with
    | plain u =>
      obtain ⟨rfl, -⟩ := Prod.mk.inj (Option.some.inj hedge)
      simp
    | applied u as =>
      obtain ⟨rfl, -⟩ := Prod.mk.inj (Option.some.inj hedge)
      simp only [GenericType.applied.sizeOf_spec]
      omega
    | array | param | wildcard => cases hedge
  have hsuper : sizeOf s < sizeOf t.supertypes := List.sizeOf_lt_of_mem hs
  have ht : sizeOf t.supertypes < sizeOf t := by
    cases t with
    | declared name primitive params supertypes =>
      simp only [TypeInfo.supertypes, TypeInfo.declared.sizeOf_spec]
      omega
    | array component own supertypes =>
      simp only [TypeInfo.supertypes, TypeInfo.array.sizeOf_spec]
      omega
  omega

/-- What holds of a type if it holds of those to which its supertypes lead, holds of all types. -/
theorem TypeInfo.edge_induction {motive : TypeInfo → Prop}
    (step : ∀ t : TypeInfo, (∀ s ∈ t.supertypes, ∀ raw args, s.edge? = some (raw, args) → motive raw) →
      motive t) (t : TypeInfo) : motive t :=
  step t fun _ hs raw _ hedge =>
    have := sizeOf_lt_of_edge hs hedge
    edge_induction step raw
termination_by sizeOf t

/-! ## What is added -/

lemma ResolvedType.ofGenericAll_eq_map (bs : Bindings) (ts : List GenericType) :
    ofGenericAll bs ts = ts.map (ofGeneric bs) := by
  induction ts with
  | nil => rfl
  | cons t ts ih => rw [ofGenericAll, ih, List.map_cons]

namespace Bindings

variable {bs : Bindings}

/-- A parameter is bound if it was not yet, and all others stay as they are. -/
lemma lookup_add (param : TypeVariable) (arg : GenericType) (key : String × String) :
    (bs.add param arg).lookup key =
      (bs.lookup key).or (if key = param.key then some (.ofGeneric bs arg) else none) := by
  rw [add]
  by_cases hbound : (bs.lookup param.key).isSome = true
  · rw [if_pos hbound]
    by_cases hkey : key = param.key
    · subst hkey
      obtain ⟨t, ht⟩ := Option.isSome_iff_exists.mp hbound
      rw [ht]
      rfl
    · rw [if_neg hkey, Option.or_none]
  · rw [if_neg hbound, List.lookup_append]
    congr 1
    by_cases hkey : key = param.key
    · simp [hkey]
    · rw [if_neg hkey, List.lookup_cons, beq_false_of_ne hkey]
      rfl

/-- Adding only appends. -/
lemma prefix_add (bs : Bindings) (param : TypeVariable) (arg : GenericType) :
    bs <+: bs.add param arg := by
  rw [add]
  split
  · exact List.prefix_rfl
  · exact List.prefix_append _ _

/-- Binding the parameters of a type only appends. -/
lemma prefix_addArguments (bs : Bindings) (raw : TypeInfo) (args : List GenericType) :
    bs <+: bs.addArguments raw args :=
  List.foldlRecOn _ _ List.prefix_rfl fun bs' h p _ => h.trans (prefix_add bs' p.1 p.2)

/-- What is bound stays. -/
lemma lookup_of_prefix {bs' : Bindings} (h : bs <+: bs') {key : String × String} {t : ResolvedType}
    (hkey : bs.lookup key = some t) : bs'.lookup key = some t := by
  obtain ⟨more, rfl⟩ := h
  rw [List.lookup_append, hkey]
  rfl

end Bindings

/-- A walk keeps what is kept along each supertype. -/
lemma TypeInfo.bindings_keeps {motive : Bindings → Prop} {t : TypeInfo} {depth : Nat}
    {known : Bindings} (hknown : motive known)
    (hedge : ∀ s ∈ t.supertypes, ∀ raw args, s.edge? = some (raw, args) →
      ∀ bs : Bindings, motive bs → motive (raw.bindings (depth + 1) (bs.addArguments raw args))) :
    motive (t.bindings depth known) := by
  rw [bindings_eq]
  split
  · exact hknown
  · refine List.foldlRecOn _ _ hknown fun bs hbs s hs => ?_
    rw [GenericType.bindings_eq]
    split
    · next raw args h => exact hedge s hs raw args h bs hbs
    · exact hbs

/-- **A walk only adds to what is known.** -/
theorem TypeInfo.prefix_bindings (t : TypeInfo) (depth : Nat) (known : Bindings) :
    known <+: t.bindings depth known := by
  induction t using TypeInfo.edge_induction generalizing depth known with
  | step t ih =>
    refine TypeInfo.bindings_keeps List.prefix_rfl fun s hs raw args hedge bs hbs => ?_
    exact (hbs.trans (Bindings.prefix_addArguments bs raw args)).trans (ih s hs raw args hedge _ _)

/-- Walking some supertypes only adds. -/
lemma Bindings.prefix_supertypes (supertypes : List GenericType) (depth : Nat) (known : Bindings) :
    known <+: supertypes.foldl (fun known s => s.bindings depth known) known := by
  refine List.foldlRecOn _ _ List.prefix_rfl fun bs hbs s _ => hbs.trans ?_
  rw [GenericType.bindings_eq]
  split
  · next raw args _ =>
    exact (Bindings.prefix_addArguments bs raw args).trans (raw.prefix_bindings _ _)
  · exact List.prefix_rfl

end Beans
