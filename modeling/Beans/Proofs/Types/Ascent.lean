import Mathlib.Data.List.Basic
import Mathlib.Tactic.Common
import Beans.Proofs.Types.Bindings

/-!
# Chains of supertypes

A type extends another one with arguments, that one extends a third, and so on. A type that is written
with the parameters of the last one means, in the context of the first one, what is left when the
parameters are replaced by the arguments, from the last type down to the first. The walk along
supertypes finds this for chains that are not too long; beyond that, parameters stay unbound.

## Main definitions

* `Beans.GenericType.Over` — what is written with the parameters of a type.
* `Beans.GenericType.substitute` — parameters replaced by arguments.
* `Beans.Ascends` — a chain of supertypes, and `Beans.summit`, the last type of it.
* `Beans.composed` — the arguments of a chain put in for the parameters, edge by edge.
* `Beans.Foremost` — nothing that is walked earlier binds a parameter of a chain.

## Main results

* `Beans.ofGeneric_bindings` — what the walk along a chain binds.
* `Beans.resolve_beyond` — nothing is bound beyond the greatest depth.
* `Beans.resolve_ascent` — resolving along a chain is composed substitution.

## Implementation notes

All bindings are in one table, and the first one of a parameter counts. So it matters that no two types
of a chain have a parameter in common, which is so if each declares its own and has a name of its own,
and that the supertypes before that of the chain do not lead to the same types. What further supertypes
bind comes too late to matter.
-/

set_option autoImplicit false

namespace Beans

/-! ## Written types and substitution -/

/-- What tells the parameters of a type apart from others. -/
def TypeInfo.paramKeys (t : TypeInfo) : List (String × String) := t.params.map TypeVariable.key

namespace GenericType

/-- Types that are written with declared types, arguments, arrays and the parameters of one type. -/
inductive Over (t : TypeInfo) : GenericType → Prop
  | plain (raw : TypeInfo) : Over t (.plain raw)
  | applied {raw : TypeInfo} {args : List GenericType} (hargs : ∀ a ∈ args, Over t a) :
      Over t (.applied raw args)
  | array {component : GenericType} (h : Over t component) : Over t (.array component)
  | param {v : TypeVariable} (hv : v.key ∈ t.paramKeys) : Over t (.param v)

mutual

/-- A type with arguments in the places of parameters. -/
def substitute (arguments : List ((String × String) × GenericType)) : GenericType → GenericType
  | plain raw => plain raw
  | applied raw args => applied raw (substituteAll arguments args)
  | array component => array (component.substitute arguments)
  | param v => (arguments.lookup v.key).getD (param v)
  | wildcard upper lower =>
    wildcard (substituteAll arguments upper) (substituteAll arguments lower)
termination_by structural t => t

/-- Types with arguments in the places of parameters. -/
def substituteAll (arguments : List ((String × String) × GenericType)) :
    List GenericType → List GenericType
  | [] => []
  | t :: ts => t.substitute arguments :: substituteAll arguments ts
termination_by structural ts => ts

end

lemma substituteAll_eq_map (arguments : List ((String × String) × GenericType))
    (ts : List GenericType) : substituteAll arguments ts = ts.map (substitute arguments) := by
  induction ts with
  | nil => rfl
  | cons t ts ih => rw [substituteAll, ih, List.map_cons]

end GenericType

open GenericType ResolvedType

variable {t u : TypeInfo} {g : GenericType} {bs bs' : Bindings}
  {arguments : List ((String × String) × GenericType)}

/-- Arguments that are written over another type make a type over that one. -/
lemma GenericType.Over.substitute (hg : g.Over u)
    (h : ∀ key ∈ u.paramKeys, ∃ a, arguments.lookup key = some a ∧ a.Over t) :
    (g.substitute arguments).Over t := by
  induction hg with
  | plain raw => exact .plain raw
  | applied _ ih =>
    rw [GenericType.substitute, substituteAll_eq_map]
    exact .applied (List.forall_mem_map.mpr ih)
  | array _ ih => exact .array ih
  | param hv =>
    obtain ⟨a, ha, hover⟩ := h _ hv
    rw [GenericType.substitute, ha]
    exact hover

/-! ## Resolving what is written over a type -/

/-- A parameter is what it is bound to, or else its first bound. -/
lemma ofGeneric_param (bs : Bindings) (v : TypeVariable) :
    ofGeneric bs (.param v) = (bs.lookup v.key).getD (ofFirst [] v.bounds) := by
  obtain ⟨declarer, name, bounds⟩ := v
  rw [ofGeneric]
  change _ = (bs.lookup (declarer, name)).getD (ofFirst [] bounds)
  cases bs.lookup (declarer, name) <;> rfl

/-- Only what the parameters are bound to matters. -/
lemma ofGeneric_congr (hg : g.Over t) (h : ∀ key ∈ t.paramKeys, bs.lookup key = bs'.lookup key) :
    ofGeneric bs g = ofGeneric bs' g := by
  induction hg with
  | plain raw => rfl
  | applied _ ih =>
    rw [ofGeneric, ofGeneric, ofGenericAll_eq_map, ofGenericAll_eq_map, List.map_congr_left ih]
  | array _ ih => rw [ofGeneric, ofGeneric, ih]
  | param hv => rw [ofGeneric_param, ofGeneric_param, h _ hv]

/-- **Resolving with arguments bound to the parameters is resolving after substitution.** -/
lemma ofGeneric_substitute (hg : g.Over u)
    (h : ∀ key ∈ u.paramKeys, ∃ a, arguments.lookup key = some a ∧
      bs'.lookup key = some (ofGeneric bs a)) :
    ofGeneric bs' g = ofGeneric bs (g.substitute arguments) := by
  induction hg with
  | plain raw => rfl
  | applied _ ih =>
    rw [GenericType.substitute, ofGeneric, ofGeneric, ofGenericAll_eq_map, ofGenericAll_eq_map,
      substituteAll_eq_map, List.map_map, List.map_congr_left ih]
    rfl
  | array _ ih => rw [GenericType.substitute, ofGeneric, ofGeneric, ih]
  | param hv =>
    obtain ⟨a, ha, hbound⟩ := h _ hv
    rw [GenericType.substitute, ofGeneric_param, hbound, ha]
    rfl

/-! ## One edge -/

/-- No parameter is common to two types. -/
def Apart (t u : TypeInfo) : Prop := ∀ key ∈ t.paramKeys, key ∉ u.paramKeys

/-- Types of distinct names have no parameters in common, if each declares its parameters itself. -/
lemma pairwise_apart {types : List TypeInfo} (hnames : (types.map TypeInfo.name).Nodup)
    (hown : ∀ u ∈ types, ∀ v ∈ u.params, v.declarer = u.name) : types.Pairwise Apart := by
  have hne : types.Pairwise fun u w => u.name ≠ w.name := List.pairwise_map.mp hnames
  refine hne.imp_of_mem fun {t u} ht hu htu key hkey hkey' => ?_
  obtain ⟨v, hv, rfl⟩ := List.mem_map.mp hkey
  obtain ⟨w, hw, hvw⟩ := List.mem_map.mp hkey'
  apply htu
  calc t.name = v.declarer := (hown t ht v hv).symm
    _ = w.declarer := (congrArg Prod.fst hvw).symm
    _ = u.name := hown u hu w hw

/-- The arguments for the parameters of a type. -/
def argumentsFor (u : TypeInfo) (args : List GenericType) :
    List ((String × String) × GenericType) :=
  u.paramKeys.zip args

/-- Every parameter has an argument if there are as many. -/
lemma exists_lookup_argumentsFor {args : List GenericType} (hlength : args.length = u.params.length)
    {key : String × String} (hkey : key ∈ u.paramKeys) :
    ∃ a ∈ args, (argumentsFor u args).lookup key = some a := by
  have hkeys : args.length = u.paramKeys.length := by rw [hlength, TypeInfo.paramKeys, List.length_map]
  clear hlength
  unfold argumentsFor
  generalize u.paramKeys = keys at hkeys hkey
  induction keys generalizing args with
  | nil => cases hkey
  | cons k keys ih =>
    cases args with
    | nil => simp at hkeys
    | cons a args =>
      by_cases hk : key = k
      · refine ⟨a, List.mem_cons_self, ?_⟩
        rw [hk, List.zip_cons_cons, List.lookup_cons_self]
      · obtain ⟨b, hb, hlookup⟩ := ih (by simpa using hkeys) ((List.mem_cons.mp hkey).resolve_left hk)
        refine ⟨b, List.mem_cons_of_mem a hb, ?_⟩
        rw [List.zip_cons_cons, List.lookup_cons, beq_false_of_ne hk]
        exact hlookup

/-- What an edge binds: each argument is resolved with what was bound before the edge. -/
lemma lookup_addArguments (hapart : Apart t u) {args : List GenericType}
    (hargs : ∀ a ∈ args, a.Over t) (key : String × String) :
    (bs.addArguments u args).lookup key =
      (bs.lookup key).or (((argumentsFor u args).lookup key).map (ofGeneric bs)) := by
  have hpairs : ∀ p ∈ u.params.zip args, p.1.key ∉ t.paramKeys ∧ p.2.Over t := by
    intro p hp
    obtain ⟨hparam, harg⟩ := List.of_mem_zip hp
    exact ⟨fun h => hapart _ h (List.mem_map_of_mem hparam), hargs _ harg⟩
  have hzip : argumentsFor u args = (u.params.zip args).map fun p => (p.1.key, p.2) := by
    rw [argumentsFor, TypeInfo.paramKeys, List.zip_map_left]
    rfl
  rw [hzip, Bindings.addArguments]
  generalize u.params.zip args = pairs at hpairs
  induction pairs generalizing bs with
  | nil => simp
  | cons p pairs ih =>
    obtain ⟨⟨hkey, -⟩, hpairs⟩ := List.forall_mem_cons.mp hpairs
    -- the other arguments are not written with the parameter that is bound now
    have hothers : (((pairs.map fun p => (p.1.key, p.2)).lookup key).map
        (ofGeneric (bs.add p.1 p.2))) =
        ((pairs.map fun p => (p.1.key, p.2)).lookup key).map (ofGeneric bs) := by
      cases hlookup : (pairs.map fun p => (p.1.key, p.2)).lookup key with
      | none => rfl
      | some a =>
        obtain ⟨before, after, hmem, -⟩ := List.lookup_eq_some_iff.mp hlookup
        have ha : (key, a) ∈ pairs.map fun p => (p.1.key, p.2) := by
          rw [hmem]
          exact List.mem_append_right _ List.mem_cons_self
        obtain ⟨q, hq, hqa⟩ := List.mem_map.mp ha
        obtain ⟨-, rfl⟩ := Prod.mk.inj hqa
        refine congrArg some (ofGeneric_congr (hpairs q hq).2 fun k hk => ?_)
        have hne : k ≠ p.1.key := fun h => hkey (h ▸ hk)
        rw [Bindings.lookup_add, if_neg hne, Option.or_none]
    rw [List.foldl_cons, ih hpairs, Bindings.lookup_add, hothers, List.map_cons, List.lookup_cons,
      Option.or_assoc]
    congr 1
    by_cases hk : key = p.1.key
    · simp [hk]
    · rw [if_neg hk, beq_false_of_ne hk, Option.none_or]

/-- An edge binds the parameters of its target, if they were free. -/
lemma lookup_addArguments_of_free (hapart : Apart t u) {args : List GenericType}
    (hargs : ∀ a ∈ args, a.Over t) (hlength : args.length = u.params.length)
    (hfree : ∀ key ∈ u.paramKeys, bs.lookup key = none) :
    ∀ key ∈ u.paramKeys, ∃ a, (argumentsFor u args).lookup key = some a ∧
      (bs.addArguments u args).lookup key = some (ofGeneric bs a) := by
  intro key hkey
  obtain ⟨a, -, ha⟩ := exists_lookup_argumentsFor hlength hkey
  refine ⟨a, ha, ?_⟩
  rw [lookup_addArguments hapart hargs, hfree key hkey, ha]
  rfl

/-! ## What supertypes lead to -/

/-- The types to which a supertype leads, by any number of edges. -/
inductive GenericType.LeadsTo : GenericType → TypeInfo → Prop
  | edge {s : GenericType} {u : TypeInfo} {args : List GenericType} (h : s.edge? = some (u, args)) :
      LeadsTo s u
  | further {s r : GenericType} {u w : TypeInfo} {args : List GenericType}
      (h : s.edge? = some (u, args)) (hr : r ∈ u.supertypes) (hw : LeadsTo r w) : LeadsTo s w

/-- An edge binds parameters of its target only. -/
lemma lookup_addArguments_of_not_mem {key : String × String} (hkey : key ∉ u.paramKeys)
    (bs : Bindings) (args : List GenericType) :
    (bs.addArguments u args).lookup key = bs.lookup key := by
  rw [Bindings.addArguments]
  refine List.foldlRecOn (motive := fun known : Bindings => known.lookup key = bs.lookup key) _ _ rfl ?_
  intro known hknown p hp
  have hne : key ≠ p.1.key := fun h =>
    hkey (h ▸ List.mem_map_of_mem (List.of_mem_zip hp).1)
  rw [Bindings.lookup_add, if_neg hne, Option.or_none]
  exact hknown

/-- A walk leaves parameters alone that belong to no type on its way. -/
lemma lookup_bindings_of_not_leadsTo {key : String × String}
    (h : ∀ s ∈ t.supertypes, ∀ w, s.LeadsTo w → key ∉ w.paramKeys) (depth : Nat) (bs : Bindings) :
    (t.bindings depth bs).lookup key = bs.lookup key := by
  induction t using TypeInfo.edge_induction generalizing depth bs with
  | step t ih =>
    refine TypeInfo.bindings_keeps (motive := fun known : Bindings => known.lookup key = bs.lookup key) rfl ?_
    intro s hs raw args hedge known hknown
    rw [ih s hs raw args hedge fun r hr w hw => h s hs w (.further hedge hr hw),
      lookup_addArguments_of_not_mem (h s hs raw (.edge hedge))]
    exact hknown

/-- So do walks along some supertypes. -/
lemma lookup_supertypes_of_not_leadsTo {key : String × String} {supertypes : List GenericType}
    (h : ∀ s ∈ supertypes, ∀ w, s.LeadsTo w → key ∉ w.paramKeys) (depth : Nat) (bs : Bindings) :
    (supertypes.foldl (fun known s => s.bindings depth known) bs).lookup key = bs.lookup key := by
  refine List.foldlRecOn (motive := fun known : Bindings => known.lookup key = bs.lookup key) _ _ rfl ?_
  intro known hknown s hs
  rw [GenericType.bindings_eq]
  cases hedge : s.edge? with
  | none => exact hknown
  | some e =>
    have hbeyond : ∀ r ∈ e.1.supertypes, ∀ w, r.LeadsTo w → key ∉ w.paramKeys :=
      fun r hr w hw => h s hs w (.further hedge hr hw)
    rw [lookup_bindings_of_not_leadsTo hbeyond, lookup_addArguments_of_not_mem (h s hs e.1 (.edge hedge))]
    exact hknown

/-! ## Chains -/

/-- A chain of supertypes, each with its arguments: one for each parameter of its target, written over the
type that the edge starts from. -/
inductive Ascends : TypeInfo → List (TypeInfo × List GenericType) → Prop
  | here (t : TypeInfo) : Ascends t []
  | step {t u : TypeInfo} {edge : GenericType} {args : List GenericType}
      {steps : List (TypeInfo × List GenericType)} (hmem : edge ∈ t.supertypes)
      (hedge : edge.edge? = some (u, args)) (hlength : args.length = u.params.length)
      (hargs : ∀ a ∈ args, a.Over t) (hsteps : Ascends u steps) : Ascends t ((u, args) :: steps)

/-- The last type of a chain. -/
def summit (t : TypeInfo) : List (TypeInfo × List GenericType) → TypeInfo
  | [] => t
  | (u, _) :: steps => summit u steps

/-- What is written over the last type of a chain with the arguments put in for the parameters, from the
last edge down to the first. -/
def composed : List (TypeInfo × List GenericType) → GenericType → GenericType
  | [], g => g
  | (u, args) :: steps, g => (composed steps g).substitute (argumentsFor u args)

/-- At each type of a chain, the supertypes before that of the chain lead to no type that has a parameter
in common with the chain from there on. -/
inductive Foremost : TypeInfo → List (TypeInfo × List GenericType) → Prop
  | here (t : TypeInfo) : Foremost t []
  | step {t u : TypeInfo} {edge : GenericType} {before others args : List GenericType}
      {steps : List (TypeInfo × List GenericType)}
      (hsupertypes : t.supertypes = before ++ edge :: others)
      (hedge : edge.edge? = some (u, args))
      (hbefore : ∀ s ∈ before, ∀ w, s.LeadsTo w → ∀ v ∈ t :: u :: steps.map Prod.fst, Apart v w)
      (hsteps : Foremost u steps) : Foremost t ((u, args) :: steps)

variable {steps : List (TypeInfo × List GenericType)}

/-- A type with one supertype at most has no other. -/
lemma eq_singleton_of_mem {edge : GenericType} (hsole : t.supertypes.length ≤ 1)
    (hmem : edge ∈ t.supertypes) : t.supertypes = [edge] := by
  obtain ⟨before, after, h⟩ := List.append_of_mem hmem
  rw [h, List.length_append, List.length_cons] at hsole
  rw [h, List.eq_nil_of_length_eq_zero (l := before) (by omega),
    List.eq_nil_of_length_eq_zero (l := after) (by omega)]
  rfl

/-- If no type has a second supertype, nothing comes before the chain. -/
lemma Ascends.foremost (hsteps : Ascends t steps)
    (hsole : ∀ u ∈ t :: steps.map Prod.fst, u.supertypes.length ≤ 1) : Foremost t steps := by
  induction hsteps with
  | here t => exact .here t
  | step hmem hedge _ _ _ ih =>
    obtain ⟨hone, hsole⟩ := List.forall_mem_cons.mp hsole
    have hsupertypes := eq_singleton_of_mem hone hmem
    exact .step (hsupertypes.trans (List.nil_append _).symm) hedge (by simp) (ih hsole)

/-- The last type is the first one or one of the others. -/
lemma summit_mem (t : TypeInfo) (steps : List (TypeInfo × List GenericType)) :
    summit t steps ∈ t :: steps.map Prod.fst := by
  induction steps generalizing t with
  | nil => exact List.mem_cons_self
  | cons e steps ih => exact List.mem_cons_of_mem t (ih e.1)

/-- What is left after all substitutions is written over the first type. -/
lemma over_composed (hsteps : Ascends t steps) (hg : g.Over (summit t steps)) :
    (composed steps g).Over t := by
  induction hsteps with
  | here t => exact hg
  | step _ _ hlength hargs _ ih =>
    refine (ih hg).substitute fun key hkey => ?_
    obtain ⟨a, ha, hlookup⟩ := exists_lookup_argumentsFor hlength hkey
    exact ⟨a, hlookup, hargs a ha⟩

/-! ## Walking along a chain -/

/-- What is added behind does not change what is bound. -/
lemma lookup_of_bound (hbehind : bs <+: bs')
    (hbound : ∀ key ∈ t.paramKeys, (bs.lookup key).isSome) :
    ∀ key ∈ t.paramKeys, bs'.lookup key = bs.lookup key := by
  intro key hkey
  obtain ⟨r, hr⟩ := Option.isSome_iff_exists.mp (hbound key hkey)
  rw [hr, Bindings.lookup_of_prefix hbehind hr]

/-- A walk goes through the supertypes before an edge, along the edge, and through the others. -/
lemma bindings_of_supertypes {edge : GenericType} {before others args : List GenericType}
    (hsupertypes : t.supertypes = before ++ edge :: others) (hedge : edge.edge? = some (u, args))
    {depth : Nat} (hdepth : depth ≤ maxDepth) (bs : Bindings) :
    t.bindings depth bs = others.foldl (fun known s => s.bindings depth known)
      (u.bindings (depth + 1) (Bindings.addArguments
        (before.foldl (fun known s => s.bindings depth known) bs) u args)) := by
  rw [TypeInfo.bindings_eq, if_neg (by omega), hsupertypes, List.foldl_append, List.foldl_cons,
    GenericType.bindings_eq, hedge]

/-- **What the walk along a chain binds**: resolving over the last type is resolving over the first one
after substitution, and all parameters of the last type are bound.

**Proof sketch.** Induction along the chain. The supertypes before the first edge change nothing on the
chain. The edge binds the parameters of its target to its arguments, resolved with what was known. With
that, the parameters of the target are bound and those of the types beyond are not, as the types have
none in common. What further supertypes bind is added behind, where it changes nothing that is bound. -/
lemma ofGeneric_bindings (hforemost : Foremost t steps) (hsteps : Ascends t steps) {depth : Nat}
    (hdepth : depth + steps.length ≤ maxDepth + 1)
    (hapart : (t :: steps.map Prod.fst).Pairwise Apart)
    (hbound : steps = [] → ∀ key ∈ t.paramKeys, (bs.lookup key).isSome)
    (hnew : ∀ u ∈ steps.map Prod.fst, ∀ key ∈ u.paramKeys, bs.lookup key = none)
    (hg : g.Over (summit t steps)) :
    ofGeneric (t.bindings depth bs) g = ofGeneric bs (composed steps g) ∧
      ∀ key ∈ (summit t steps).paramKeys, ((t.bindings depth bs).lookup key).isSome := by
  induction hforemost generalizing depth bs with
  | here t =>
    have hsame := lookup_of_bound (t.prefix_bindings depth bs) (hbound rfl)
    refine ⟨ofGeneric_congr hg hsame, ?_⟩
    intro key hkey
    rw [summit] at hkey
    rw [hsame key hkey]
    exact hbound rfl key hkey
  | @step t u edge before others args steps hsupertypes hedge hbefore hforemost ih =>
    have hcomposed : (composed ((u, args) :: steps) g).Over t := over_composed hsteps hg
    obtain ⟨⟩ | ⟨-, -, hlength, hargs, hsteps⟩ := hsteps
    obtain ⟨hfirst, hapart⟩ := List.pairwise_cons.mp hapart
    obtain ⟨hnewu, hnew⟩ := List.forall_mem_cons.mp hnew
    rw [List.length_cons] at hdepth
    -- the supertypes before the edge
    let known := before.foldl (fun known s => s.bindings depth known) bs
    have hknown : ∀ v ∈ t :: u :: steps.map Prod.fst, ∀ key ∈ v.paramKeys,
        known.lookup key = bs.lookup key := by
      intro v hv key hkey
      exact lookup_supertypes_of_not_leadsTo (fun s hs w hw => hbefore s hs w hw v hv key hkey) depth bs
    -- the edge of the chain
    have hu := lookup_addArguments_of_free (hfirst u List.mem_cons_self) hargs hlength
      fun key hkey => (hknown u (by simp) key hkey).trans (hnewu key hkey)
    have hbeyond : ∀ w ∈ steps.map Prod.fst, ∀ key ∈ w.paramKeys,
        (known.addArguments u args).lookup key = none := by
      intro w hw key hkey
      have hkeys : key ∉ u.paramKeys := fun h => (List.pairwise_cons.mp hapart).1 w hw key h hkey
      have hfree : known.lookup key = none := by
        rw [hknown w (by simp [hw]) key hkey, hnew w hw key hkey]
      rw [lookup_addArguments_of_not_mem hkeys, hfree]
    -- the rest of the chain
    have hboundu : ∀ key ∈ u.paramKeys, ((known.addArguments u args).lookup key).isSome := by
      intro key hkey
      obtain ⟨a, -, ha⟩ := hu key hkey
      rw [ha]
      rfl
    obtain ⟨hrest, hsummit⟩ :=
      @ih _ hsteps (depth + 1) (by omega) hapart (fun _ => hboundu) hbeyond hg
    -- the further supertypes
    have hsame := lookup_of_bound (Bindings.prefix_supertypes others depth
      (u.bindings (depth + 1) (known.addArguments u args))) hsummit
    rw [bindings_of_supertypes hsupertypes hedge (by omega)]
    constructor
    · calc ofGeneric _ g
          = ofGeneric (u.bindings (depth + 1) (known.addArguments u args)) g :=
            ofGeneric_congr hg hsame
        _ = ofGeneric (known.addArguments u args) (composed steps g) := hrest
        _ = ofGeneric known ((composed steps g).substitute (argumentsFor u args)) :=
            ofGeneric_substitute (over_composed hsteps hg) hu
        _ = ofGeneric bs (composed ((u, args) :: steps) g) :=
            ofGeneric_congr hcomposed (hknown t List.mem_cons_self)
    · intro key hkey
      rw [summit] at hkey
      rw [hsame key hkey]
      exact hsummit key hkey

/-- **Nothing is bound beyond the greatest depth**: of a longer chain, the parameters of the last type are
not bound, if no type has a second supertype. -/
lemma lookup_bindings_beyond (hsteps : Ascends t steps)
    (hsole : ∀ u ∈ t :: steps.map Prod.fst, u.supertypes.length ≤ 1) {depth : Nat}
    (hdepth : maxDepth + 1 < depth + steps.length)
    (hapart : (t :: steps.map Prod.fst).Pairwise Apart) {key : String × String}
    (hkey : key ∈ (summit t steps).paramKeys) (hnew : bs.lookup key = none) :
    (t.bindings depth bs).lookup key = none := by
  induction hsteps generalizing depth bs with
  | here t =>
    rw [List.length_nil] at hdepth
    rw [TypeInfo.bindings_eq, if_pos (by omega)]
    exact hnew
  | @step t u edge args steps hmem hedge hlength hargs hsteps ih =>
    obtain ⟨-, hapart⟩ := List.pairwise_cons.mp hapart
    obtain ⟨hone, hsole⟩ := List.forall_mem_cons.mp hsole
    rw [List.length_cons] at hdepth
    rw [TypeInfo.bindings_eq]
    split
    · exact hnew
    · rw [eq_singleton_of_mem hone hmem, List.foldl_cons, List.foldl_nil, GenericType.bindings_eq,
        hedge]
      refine ih hsole (by omega) hapart hkey ?_
      -- the chain goes on after this edge, to another type
      cases steps with
      | nil =>
        rw [List.length_nil] at hdepth
        omega
      | cons e steps =>
        have hmem : summit e.1 steps ∈ e.1 :: steps.map Prod.fst := summit_mem e.1 steps
        have hkeys : key ∉ u.paramKeys := fun h =>
          (List.pairwise_cons.mp hapart).1 _ hmem key h hkey
        rw [lookup_addArguments_of_not_mem hkeys]
        exact hnew

/-- In the context of a type at the bottom of too long a chain, what is written over the last type is
resolved as if there were no context. -/
lemma resolve_beyond (hsteps : Ascends t steps)
    (hsole : ∀ u ∈ t :: steps.map Prod.fst, u.supertypes.length ≤ 1)
    (hlength : maxDepth + 1 < steps.length)
    (hapart : (t :: steps.map Prod.fst).Pairwise Apart) (hg : g.Over (summit t steps)) :
    resolve g t = ofGeneric [] g := by
  refine ofGeneric_congr hg fun key hkey => ?_
  rw [lookup_bindings_beyond hsteps hsole (by omega) hapart hkey rfl]
  rfl

/-- **Resolving along a chain of supertypes is composed substitution**: what is written over the last type is
resolved, in the context of the first one, as if every parameter were replaced by its argument, edge by
edge down to the first type; nothing but parameters of the first type is left then. This holds of chains
of `maxDepth + 1` edges at most. Of longer ones, if no type has a second supertype, the parameters of
the last type have no binding: each is resolved to its first bound, or to the top type. -/
theorem resolve_ascent (hsteps : Ascends t steps) (hne : steps ≠ [])
    (hapart : (t :: steps.map Prod.fst).Pairwise Apart) (hg : g.Over (summit t steps)) :
    (composed steps g).Over t ∧
    (steps.length ≤ maxDepth + 1 → Foremost t steps →
      resolve g t = ofGeneric [] (composed steps g)) ∧
    (maxDepth + 1 < steps.length → (∀ u ∈ t :: steps.map Prod.fst, u.supertypes.length ≤ 1) →
      resolve g t = ofGeneric [] g) := by
  refine ⟨over_composed hsteps hg, fun hlength hforemost => ?_, fun hlength hsole => ?_⟩
  · refine (ofGeneric_bindings hforemost hsteps (by omega) hapart (fun h => absurd h hne) ?_ hg).1
    intro u _ key _
    rfl
  · exact resolve_beyond hsteps hsole hlength hapart hg

/-- A chain of two edges, with a map written over its last type. -/
theorem resolve_ascent_map :
    let root := TypeInfo.generic "app::Root" ["K", "V"]
    let mid := TypeInfo.declared "app::Mid" false [.of "app::Mid" "X" []]
      [.applied root [.applied (builtin "Vec") [.param (.of "app::Mid" "X" [])], .plain (builtin "i64")]]
    let leaf := TypeInfo.declared "app::Leaf" false [] [.applied mid [.plain (builtin "String")]]
    let g := GenericType.applied (builtin "HashMap")
      [.param (.of "app::Root" "K" []), .array (.param (.of "app::Root" "V" []))]
    ∃ steps, Ascends leaf steps ∧ summit leaf steps = root ∧
      resolve g leaf = ofGeneric [] (composed steps g) ∧
      (resolve g leaf).display = "HashMap<Vec<String>, i64[]>" := by
  intro root mid leaf g
  let steps : List (TypeInfo × List GenericType) :=
    [(mid, [.plain (builtin "String")]),
      (root, [.applied (builtin "Vec") [.param (.of "app::Mid" "X" [])], .plain (builtin "i64")])]
  have hvec : (GenericType.applied (builtin "Vec") [.param (.of "app::Mid" "X" [])]).Over mid :=
    .applied (List.forall_mem_singleton.mpr (.param List.mem_cons_self))
  have hsteps : Ascends leaf steps := by
    refine .step List.mem_cons_self rfl rfl (List.forall_mem_singleton.mpr (.plain _)) ?_
    refine .step List.mem_cons_self rfl rfl ?_ (.here root)
    exact List.forall_mem_cons.mpr ⟨hvec, List.forall_mem_singleton.mpr (.plain _)⟩
  have hapart : (leaf :: steps.map Prod.fst).Pairwise Apart := by
    apply pairwise_apart
    · decide
    · simp [leaf, steps, mid, root, TypeInfo.generic, TypeInfo.params, TypeVariable.declarer,
        TypeInfo.name]
  have hg : g.Over (summit leaf steps) := by
    refine .applied (List.forall_mem_cons.mpr ⟨.param List.mem_cons_self, ?_⟩)
    exact List.forall_mem_singleton.mpr (.array (.param (List.mem_cons_of_mem _ List.mem_cons_self)))
  have hforemost : Foremost leaf steps := hsteps.foremost (by decide)
  refine ⟨steps, hsteps, rfl, ?_, by decide⟩
  exact (resolve_ascent hsteps (by simp [steps]) hapart hg).2.1 (by decide) hforemost

/-! ## Where resolving is not composed substitution -/

/-- A chain of differently named types along which resolving differs from composed substitution. -/
structure Astray (t : TypeInfo) (steps : List (TypeInfo × List GenericType)) (g : GenericType) :
    Prop where
  ascends : Ascends t steps
  nonempty : steps ≠ []
  names : ((t :: steps.map Prod.fst).map TypeInfo.name).Nodup
  written : g.Over (summit t steps)
  differs : resolve g t ≠ ofGeneric [] (composed steps g)

/-- The parameter of a type in a tower. -/
def rungParam (n : Nat) : TypeVariable := .of (String.ofList (List.replicate (n + 1) 'T')) "P" []

/-- Types with one parameter each, on top of each other; each hands its parameter to the one above. -/
def tower : Nat → TypeInfo
  | 0 => .declared (rungParam 0).declarer false [rungParam 0] []
  | n + 1 => .declared (rungParam (n + 1)).declarer false [rungParam (n + 1)]
      [.applied (tower n) [.param (rungParam (n + 1))]]

/-- The chain up to the top of a tower. -/
def towerSteps : Nat → List (TypeInfo × List GenericType)
  | 0 => []
  | n + 1 => (tower n, [.param (rungParam (n + 1))]) :: towerSteps n

/-- A type that extends the lowest type of a tower for texts. -/
def towerFoot (n : Nat) : TypeInfo :=
  .declared "Foot" false [] [.applied (tower n) [.plain (builtin "String")]]

/-- The chain from the foot of a tower to its top. -/
def footSteps (n : Nat) : List (TypeInfo × List GenericType) :=
  (tower n, [.plain (builtin "String")]) :: towerSteps n

lemma params_tower (n : Nat) : (tower n).params = [rungParam n] := by
  cases n <;> rfl

lemma paramKeys_tower (n : Nat) : (tower n).paramKeys = [(rungParam n).key] := by
  rw [TypeInfo.paramKeys, params_tower]
  rfl

lemma name_tower (n : Nat) : (tower n).name = String.ofList (List.replicate (n + 1) 'T') := by
  cases n <;> rfl

lemma length_towerSteps (n : Nat) : (towerSteps n).length = n := by
  induction n with
  | zero => rfl
  | succ n ih => rw [towerSteps, List.length_cons, ih]

lemma summit_tower (n : Nat) : summit (tower n) (towerSteps n) = tower 0 := by
  induction n with
  | zero => rfl
  | succ n ih => exact ih

lemma mem_towerSteps {n : Nat} {u : TypeInfo} (hu : u ∈ (towerSteps n).map Prod.fst) :
    ∃ k < n, u = tower k := by
  induction n with
  | zero => cases hu
  | succ n ih =>
    rcases List.mem_cons.mp hu with rfl | hu
    · exact ⟨n, by omega, rfl⟩
    · obtain ⟨k, hk, rfl⟩ := ih hu
      exact ⟨k, by omega, rfl⟩

lemma over_rung (n : Nat) : (GenericType.param (rungParam n)).Over (tower n) := by
  refine .param ?_
  rw [paramKeys_tower]
  exact List.mem_cons_self

lemma ascends_tower (n : Nat) : Ascends (tower n) (towerSteps n) := by
  induction n with
  | zero => exact .here _
  | succ n ih =>
    refine .step List.mem_cons_self rfl (by rw [params_tower]; rfl) ?_ ih
    exact List.forall_mem_singleton.mpr (over_rung (n + 1))

lemma ascends_towerFoot (n : Nat) : Ascends (towerFoot n) (footSteps n) := by
  refine .step List.mem_cons_self rfl (by rw [params_tower]; rfl) ?_ (ascends_tower n)
  exact List.forall_mem_singleton.mpr (.plain _)

/-- All the way down, the parameter of the top is the parameter of the lowest type. -/
lemma composed_towerSteps (n : Nat) :
    composed (towerSteps n) (.param (rungParam 0)) = .param (rungParam n) := by
  induction n with
  | zero => rfl
  | succ n ih =>
    rw [towerSteps, composed, ih, substitute, argumentsFor, paramKeys_tower]
    simp

lemma nodup_names_tower (n : Nat) :
    ((tower n :: (towerSteps n).map Prod.fst).map TypeInfo.name).Nodup := by
  induction n with
  | zero => simp [towerSteps]
  | succ n ih =>
    refine List.nodup_cons.mpr ⟨?_, ih⟩
    intro h
    obtain ⟨u, hu, hname⟩ := List.mem_map.mp h
    obtain ⟨k, hk, rfl⟩ := mem_towerSteps (n := n + 1) hu
    have hlengths := congrArg (fun s => s.toList.length) hname
    simp only [name_tower, String.toList_ofList, List.length_replicate] at hlengths
    omega

lemma mem_footSteps {n : Nat} {u : TypeInfo} (hu : u ∈ (footSteps n).map Prod.fst) :
    ∃ k, u = tower k := by
  rcases List.mem_cons.mp hu with rfl | hu
  · exact ⟨n, rfl⟩
  · obtain ⟨k, -, rfl⟩ := mem_towerSteps hu
    exact ⟨k, rfl⟩

/-- The name of the foot does not consist of one letter, as the others do. -/
lemma nodup_names_towerFoot (n : Nat) :
    ((towerFoot n :: (footSteps n).map Prod.fst).map TypeInfo.name).Nodup := by
  refine List.nodup_cons.mpr ⟨fun h => ?_, nodup_names_tower n⟩
  obtain ⟨u, hu, hname⟩ := List.mem_map.mp h
  obtain ⟨k, rfl⟩ := mem_footSteps hu
  have hletters := congrArg String.toList hname
  rw [name_tower, String.toList_ofList] at hletters
  have hF : 'F' ∈ List.replicate (k + 1) 'T' := by
    rw [hletters]
    show 'F' ∈ "Foot".toList
    decide
  exact absurd (List.eq_of_mem_replicate hF) (by decide)

/-- The types of a tower declare their own parameters. -/
lemma pairwise_apart_towerFoot (n : Nat) :
    (towerFoot n :: (footSteps n).map Prod.fst).Pairwise Apart := by
  apply pairwise_apart (nodup_names_towerFoot n)
  refine List.forall_mem_cons.mpr ⟨by simp [towerFoot, TypeInfo.params], fun u hu v hv => ?_⟩
  obtain ⟨k, rfl⟩ := mem_footSteps hu
  rw [params_tower] at hv
  rw [List.mem_singleton.mp hv, name_tower]
  rfl

/-- The argument of the foot is handed up to the top. -/
lemma composed_footSteps (n : Nat) :
    composed (footSteps n) (.param (rungParam 0)) = .plain (builtin "String") := by
  rw [footSteps, composed, composed_towerSteps, substitute, argumentsFor, paramKeys_tower]
  simp

/-- **In a tower that is too high, the parameter of the top is not found**: it should be a text, and it is the
top type. -/
lemma astray_towerFoot {n : Nat} (hn : maxDepth < n) :
    Astray (towerFoot n) (footSteps n) (.param (rungParam 0)) := by
  have hover : (GenericType.param (rungParam 0)).Over (summit (towerFoot n) (footSteps n)) := by
    change (GenericType.param (rungParam 0)).Over (summit (tower n) (towerSteps n))
    rw [summit_tower]
    exact over_rung 0
  refine ⟨ascends_towerFoot n, List.cons_ne_nil _ _, nodup_names_towerFoot n, hover, ?_⟩
  have hlength : maxDepth + 1 < (footSteps n).length := by
    rw [footSteps, List.length_cons, length_towerSteps]
    omega
  have hsole : ∀ u ∈ towerFoot n :: (footSteps n).map Prod.fst, u.supertypes.length ≤ 1 := by
    refine List.forall_mem_cons.mpr ⟨Nat.le_refl 1, fun u hu => ?_⟩
    obtain ⟨k, rfl⟩ := mem_footSteps hu
    cases k with
    | zero => exact Nat.zero_le 1
    | succ k => exact Nat.le_refl 1
  rw [resolve_beyond (ascends_towerFoot n) hsole hlength (pairwise_apart_towerFoot n) hover,
    composed_footSteps]
  intro h
  have hnames := congrArg (fun t => t.raw.name) h
  revert hnames
  decide

/-- Three chains along which resolving is not composed substitution: a chain of 66 edges; a chain to a type to
which an earlier supertype leads with another argument; and a chain through an array and its component,
which have a parameter in common. -/
theorem resolve_ne_composed :
    let text := GenericType.plain (builtin "String")
    let number := GenericType.plain (builtin "i32")
    let root := TypeInfo.generic "app::Root" ["T"]
    let left := TypeInfo.declared "app::Left" false [] [.applied root [number]]
    let right := TypeInfo.declared "app::Right" false [] [.applied root [text]]
    let both := TypeInfo.declared "app::Both" false [] [.plain left, .plain right]
    let roots := TypeInfo.array root [] [.applied root [number]]
    let leaf := TypeInfo.declared "app::Leaf" false [] [.applied roots [text]]
    let t := GenericType.param (.of "app::Root" "T" [])
    Astray (towerFoot 65) (footSteps 65) (.param (rungParam 0)) ∧
    Astray both [(right, []), (root, [text])] t ∧
    Astray leaf [(roots, [text]), (root, [number])] t := by
  intro text number root left right both roots leaf t
  have hover : t.Over root := .param List.mem_cons_self
  have hplain (u : TypeInfo) (name : String) :
      ∀ a ∈ [GenericType.plain (builtin name)], a.Over u :=
    List.forall_mem_singleton.mpr (.plain _)
  refine ⟨astray_towerFoot (by decide), ⟨?_, by simp, by decide, hover, ?_⟩,
    ⟨?_, by simp, by decide, hover, ?_⟩⟩
  · refine .step (List.mem_cons_of_mem _ List.mem_cons_self) rfl rfl (by simp) ?_
    exact .step List.mem_cons_self rfl rfl (hplain _ _) (.here root)
  · intro h
    have hnames := congrArg (fun t => t.raw.name) h
    revert hnames
    decide
  · refine .step List.mem_cons_self rfl rfl (hplain _ _) ?_
    exact .step List.mem_cons_self rfl rfl (hplain _ _) (.here root)
  · intro h
    have hnames := congrArg (fun t => t.raw.name) h
    revert hnames
    decide

end Beans
