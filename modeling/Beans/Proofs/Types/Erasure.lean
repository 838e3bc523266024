import Mathlib.Tactic.Common
import Beans.Proofs.Types.Ascent

/-!
# Erasure and resolution

The declared type under a written type is found in two ways: erasure takes arguments away and puts
the first bound in the place of a variable; resolution also puts arguments in the places of the
variables that the supertypes of a context bind. Both go to the first bound where a variable is not
bound, erasure with the variables of the bound treated alike, resolution with none of them bound any
more. So they find the same type if the variable that decides about it is not bound.

## Main definitions

* `Beans.GenericType.vars` — the variables that occur in a written type.
* `Beans.GenericType.decider?` — the variable on which the declared type depends.
* `Beans.TypeInfo.Binds` — an argument is given to a variable, some supertypes further up.

## Main results

* `Beans.TypeInfo.lookup_bindings_eq_none_iff` — which variables a walk leaves unbound.
* `Beans.ResolvedType.raw_ofGeneric_eq_iff` — only the deciding variable matters.
* `Beans.ResolvedType.raw_resolve_eq_erasure` — erasure agrees with resolution.
-/

set_option autoImplicit false

namespace Beans

/-! ## Variables of a written type -/

namespace GenericType

mutual

/-- The variables that occur in a written type, those in the bounds of variables included. -/
def vars : GenericType → List TypeVariable
  | plain _ => []
  | applied _ args => varsAll args
  | array component => component.vars
  | param (.of declarer name bounds) => .of declarer name bounds :: varsAll bounds
  | wildcard upper lower => varsAll upper ++ varsAll lower
termination_by structural t => t

/-- The variables that occur in written types. -/
def varsAll : List GenericType → List TypeVariable
  | [] => []
  | t :: ts => t.vars ++ varsAll ts
termination_by structural ts => ts

end

mutual

/-- The variable on which the declared type under a written one depends: the type itself, or that of
its component or of its first bound. -/
def decider? : GenericType → Option TypeVariable
  | plain _ | applied .. => none
  | array component => component.decider?
  | param v => some v
  | wildcard upper _ => firstDecider? upper
termination_by structural t => t

/-- The deciding variable of the first bound. -/
def firstDecider? : List GenericType → Option TypeVariable
  | [] => none
  | bound :: _ => bound.decider?
termination_by structural ts => ts

end

mutual

/-- The deciding variable is one that occurs. -/
lemma mem_vars_of_decider? {v : TypeVariable} :
    ∀ g : GenericType, g.decider? = some v → v ∈ g.vars
  | plain _, h | applied .., h => by cases h
  | array component, h => mem_vars_of_decider? component h
  | param (.of declarer name bounds), h => by
    obtain rfl := Option.some.inj h
    exact List.mem_cons_self
  | wildcard upper _, h => List.mem_append_left _ (mem_varsAll_of_firstDecider? upper h)

/-- So is that of the first bound. -/
lemma mem_varsAll_of_firstDecider? {v : TypeVariable} :
    ∀ bounds : List GenericType, firstDecider? bounds = some v → v ∈ varsAll bounds
  | [], h => by cases h
  | bound :: _, h => List.mem_append_left _ (mem_vars_of_decider? bound h)

end

end GenericType

/-! ## Bound variables -/

/-- A supertype of a type gives an argument to a variable, or one does that is `n` supertypes further
up. -/
inductive TypeInfo.Binds (key : String × String) : TypeInfo → Nat → Prop
  | edge {t u : TypeInfo} {s : GenericType} {args : List GenericType} (hs : s ∈ t.supertypes)
      (hedge : s.edge? = some (u, args)) (hkey : key ∈ (u.params.zip args).map fun p => p.1.key) :
      Binds key t 0
  | further {t u : TypeInfo} {s : GenericType} {args : List GenericType} {n : Nat}
      (hs : s ∈ t.supertypes) (hedge : s.edge? = some (u, args)) (h : Binds key u n) :
      Binds key t (n + 1)

/-- An edge leaves the variables unbound to which it gives no argument. -/
lemma Bindings.lookup_addArguments_eq_none_iff {key : String × String} (bs : Bindings)
    (u : TypeInfo) (args : List GenericType) :
    (bs.addArguments u args).lookup key = none ↔
      bs.lookup key = none ∧ key ∉ (u.params.zip args).map fun p => p.1.key := by
  rw [addArguments]
  generalize u.params.zip args = pairs
  induction pairs generalizing bs with
  | nil => simp
  | cons p pairs ih =>
    have hadd : (bs.add p.1 p.2).lookup key = none ↔ bs.lookup key = none ∧ key ≠ p.1.key := by
      rw [lookup_add, Option.or_eq_none_iff]
      simp
    rw [List.foldl_cons, ih, hadd, List.map_cons, List.mem_cons, not_or, and_assoc]

/-- **A walk leaves those variables unbound to which no supertype on its way gives an argument.** It
goes up to the greatest depth, from the depth at which it starts. -/
theorem TypeInfo.lookup_bindings_eq_none_iff {key : String × String} (t : TypeInfo) (depth : Nat)
    (known : Bindings) : (t.bindings depth known).lookup key = none ↔
      known.lookup key = none ∧ ∀ n, depth + n ≤ maxDepth → ¬ t.Binds key n := by
  induction t using TypeInfo.edge_induction generalizing depth known with
  | step t ih =>
    rw [bindings_eq]
    split
    case isTrue hdeep =>
      exact ⟨fun h => ⟨h, fun n hn => absurd hn (by omega)⟩, And.left⟩
    case isFalse hdepth =>
    -- one supertype after the other
    have hwalk : ∀ supertypes ⊆ t.supertypes, ∀ known : Bindings,
        (supertypes.foldl (fun known s => s.bindings depth known) known).lookup key = none ↔
          known.lookup key = none ∧ ∀ s ∈ supertypes, ∀ u args, s.edge? = some (u, args) →
            (key ∉ (u.params.zip args).map fun p => p.1.key) ∧
              ∀ n, depth + 1 + n ≤ maxDepth → ¬ u.Binds key n := by
      intro supertypes
      induction supertypes with
      | nil => simp
      | cons s supertypes ihs =>
        intro hsub known
        obtain ⟨hs, hsub⟩ := List.cons_subset.mp hsub
        rw [List.foldl_cons, ihs hsub, GenericType.bindings_eq, List.forall_mem_cons, ← and_assoc]
        refine and_congr_left fun _ => ?_
        cases hedge : s.edge? with
        | none => simp
        | some e =>
          obtain ⟨u, args⟩ := e
          dsimp only
          rw [ih s hs u args hedge, Bindings.lookup_addArguments_eq_none_iff, and_assoc]
          refine and_congr_right fun _ => ⟨fun h v bs hv => ?_, fun h => h u args rfl⟩
          obtain ⟨rfl, rfl⟩ := Prod.mk.inj (Option.some.inj hv)
          exact h
    rw [hwalk _ (List.Subset.refl _)]
    refine and_congr_right fun _ => ⟨fun h n hn hbinds => ?_, fun h s hs u args hedge => ⟨?_, ?_⟩⟩
    · cases hbinds with
      | edge hs hedge hkey => exact (h _ hs _ _ hedge).1 hkey
      | further hs hedge hbinds => exact (h _ hs _ _ hedge).2 _ (by omega) hbinds
    · exact fun hkey => h 0 (by omega) (.edge hs hedge hkey)
    · exact fun n hn hbinds => h (n + 1) (by omega) (.further hs hedge hbinds)

/-! ## Declared types -/

namespace ResolvedType

open GenericType

mutual

/-- Where nothing is bound, the declared type is the erasure. -/
lemma raw_ofGeneric_nil : ∀ g : GenericType, (ofGeneric [] g).raw = g.erasure
  | plain _ | applied .. => rfl
  | array component => congrArg TypeInfo.arrayOf (raw_ofGeneric_nil component)
  | param (.of _ _ bounds) => raw_ofFirst_nil bounds
  | wildcard upper _ => raw_ofFirst_nil upper

/-- That of the first of some bounds is the erasure of the bound. -/
lemma raw_ofFirst_nil : ∀ bounds : List GenericType, (ofFirst [] bounds).raw = firstErasure bounds
  | [] => rfl
  | bound :: _ => raw_ofGeneric_nil bound

end

/-- A variable that is not bound has its erasure as declared type: the one of its first bound. -/
lemma raw_ofGeneric_param {bs : Bindings} {v : TypeVariable} (h : bs.lookup v.key = none) :
    (ofGeneric bs (.param v)).raw = (GenericType.param v).erasure := by
  obtain ⟨declarer, name, bounds⟩ := v
  rw [ofGeneric_param, h]
  exact raw_ofFirst_nil bounds

/-- **Only the deciding variable matters**: the declared type that is found with some bindings is the
erasure exactly if it is for this variable, if there is one. -/
theorem raw_ofGeneric_eq_iff (bs : Bindings) : ∀ g : GenericType,
    (ofGeneric bs g).raw = g.erasure ↔
      ∀ v ∈ g.decider?, (ofGeneric bs (.param v)).raw = (GenericType.param v).erasure
  | plain _ | applied .. => iff_of_true rfl nofun
  | array component => by
    have harray : (ofGeneric bs component).raw.arrayOf = component.erasure.arrayOf ↔
        (ofGeneric bs component).raw = component.erasure := by
      simp [TypeInfo.arrayOf]
    exact harray.trans (raw_ofGeneric_eq_iff bs component)
  | param v => by simp [decider?]
  | wildcard [] _ => iff_of_true rfl nofun
  | wildcard (bound :: _) _ => raw_ofGeneric_eq_iff bs bound

/-- **Erasure agrees with resolution**: a written type is resolved to a type whose declared type is the
erasure, in every context whose supertypes bind none of the variables that occur in it. It is so
exactly if it is so for the variable that decides, whatever the other variables are bound to. -/
theorem raw_resolve_eq_erasure (g : GenericType) (context : TypeInfo) :
    ((∀ v ∈ g.vars, ∀ n ≤ maxDepth, ¬ context.Binds v.key n) →
      (resolve g context).raw = g.erasure) ∧
    ((resolve g context).raw = g.erasure ↔
      ∀ v ∈ g.decider?, (resolve (.param v) context).raw = (GenericType.param v).erasure) := by
  have hiff := raw_ofGeneric_eq_iff (context.bindings 0 []) g
  refine ⟨fun h => hiff.mpr fun v hv => raw_ofGeneric_param ?_, hiff⟩
  refine (context.lookup_bindings_eq_none_iff 0 []).mpr ⟨rfl, fun n hn => ?_⟩
  exact h v (mem_vars_of_decider? g hv) n (by omega)

/-- Arrays of a variable that is bounded by another one, which is bounded by lists of texts; the context
binds a variable of another type. -/
theorem raw_resolve_eq_erasure_lists :
    let texts := GenericType.applied (builtin "Vec") [.plain (builtin "String")]
    let inner := TypeVariable.of "app::Holder" "U" [texts]
    let outer := TypeVariable.of "app::Holder" "T" [.wildcard [.param inner] []]
    let g := GenericType.array (.array (.param outer))
    let base := TypeInfo.generic "app::Base" ["T"]
    let sub := TypeInfo.declared "app::Sub" false [] [.applied base [.plain (builtin "i32")]]
    (∀ v ∈ g.vars, ∀ n ≤ maxDepth, ¬ sub.Binds v.key n) ∧
      (resolve g sub).raw = g.erasure ∧ (resolve g sub).display = "Vec<String>[][]" := by
  intro texts inner outer g base sub
  have hunbound : ∀ v ∈ g.vars, ∀ n ≤ maxDepth, ¬ sub.Binds v.key n := by
    intro v hv n _ hbinds
    have hdeclarer : v.declarer = "app::Holder" := by
      have hvars : g.vars = [outer, inner] := rfl
      rw [hvars] at hv
      rcases List.mem_cons.mp hv with rfl | hv
      · rfl
      · rw [List.mem_singleton.mp hv]
        rfl
    cases hbinds with
    | edge hs hedge hkey =>
      obtain rfl := List.mem_singleton.mp hs
      obtain ⟨rfl, rfl⟩ := Prod.mk.inj (Option.some.inj hedge)
      have hname : v.key = ("app::Base", "T") := List.mem_singleton.mp hkey
      rw [TypeVariable.key, hdeclarer] at hname
      have hholder : "app::Holder" = "app::Base" := congrArg Prod.fst hname
      exact absurd hholder (by decide)
    | further hs hedge hbinds =>
      obtain rfl := List.mem_singleton.mp hs
      obtain ⟨rfl, rfl⟩ := Prod.mk.inj (Option.some.inj hedge)
      cases hbinds with
      | edge hs | further hs => cases hs
  exact ⟨hunbound, (raw_resolve_eq_erasure g sub).1 hunbound, by decide +kernel⟩

end ResolvedType

end Beans
