import Mathlib.Data.List.Induction
import Mathlib.Data.List.Nodup
import Mathlib.Tactic.Common
import Beans.Proofs.Bean.Fields
import Beans.Registry
import Beans.Sample.Changeable

/-!
# Runs of a registry

A registry is changed by calls that register a meta-bean, look one up, which registers it, or make a
kind of beans known. Which meta-beans are registered after a run is said of its calls alone: of all
that are offered, it is the first of each type. What the registry answers follows from it.

## Main definitions

* `Beans.RegistryCall` — a call, and `Beans.Registry.after`, the registry after a run of calls.
* `Beans.Registry.registrations` — the meta-beans that are registered by a run.
* `Beans.Registry.Knows` — how the tables of a registry come from the registered meta-beans.

## Main results

* `Beans.Registry.Knows.register_new`, `Beans.Registry.Knows.register_known` — what registering
  does.
* `Beans.Registry.Knows.foldl_apply` — the tables after a run.
* `Beans.Registry.after_answers` — what a registry answers after a run, and after any calls later
  on.
-/

set_option autoImplicit false

open List

namespace Beans

/-! ## Calls -/

/-- A call that may change a registry. -/
inductive RegistryCall
  /-- A meta-bean is registered. -/
  | register (m : MetaBean)
  /-- The meta-bean of a kind of beans is registered. -/
  | registerBean (kind : BeanKind)
  /-- The meta-bean of a kind of beans is looked up. -/
  | lookup (kind : BeanKind)
  /-- A kind of beans is made known. -/
  | registerDynamic (kind : BeanKind)

namespace RegistryCall

/-- The registry after a call. -/
def apply (r : Registry) : RegistryCall → Registry
  | register m => (r.register m).2
  | registerBean kind => (r.registerBean kind).2
  | lookup kind => (r.lookup kind).2
  | registerDynamic kind => r.registerDynamic kind

/-- The meta-bean that a call registers, if its type has none. -/
def offered? : RegistryCall → Option MetaBean
  | register m => some m
  | registerBean kind | lookup kind => some kind.metaBean
  | registerDynamic _ => none

end RegistryCall

namespace Registry

/-- The registry after a run of calls. -/
def after (calls : List RegistryCall) : Registry := calls.foldl RegistryCall.apply .empty

/-- The first meta-bean of each type. -/
def firstOfType (ms : List MetaBean) : List MetaBean := ms.eraseDupsBy fun m k => m.type.same k.type

/-- The meta-beans that are registered by a run: of all that are offered, the first of each type. -/
def registrations (calls : List RegistryCall) : List MetaBean :=
  firstOfType (calls.filterMap RegistryCall.offered?)

/-- Whether the type of a meta-bean is none of those of some others. -/
def isNew (known : List MetaBean) (m : MetaBean) : Bool := known.all fun k => !m.type.same k.type

/-- How the tables of a registry come from the registered meta-beans. -/
structure Knows (r : Registry) (known : List MetaBean) : Prop where
  metaBeans : r.metaBeans = known.map fun m => (m.type.key, m)
  /-- The first meta-bean of a name gives the type that the name stands for. -/
  names : ∀ name, r.names.lookup name =
    (known.find? fun m => m.name == name).map fun m => m.type.key
  nodup : (known.map fun m => m.type.key).Nodup

section

variable {r : Registry} {known : List MetaBean} {m : MetaBean} {kind : BeanKind} {t : BeanType}
  {c : RegistryCall} {name : String}

/-- A meta-bean is new if no other has its type. -/
lemma isNew_iff : isNew known m = true ↔ ∀ k ∈ known, k.type.key ≠ m.type.key := by
  simp [isNew, BeanType.same, @eq_comm _ m.type.key]

/-- A meta-bean is not new if another has its type. -/
lemma isNew_eq_false_iff : isNew known m = false ↔ ∃ k ∈ known, k.type.key = m.type.key := by
  rw [← Bool.not_eq_true, isNew_iff]
  simp

/-- The first meta-bean stays, and no later one of its type does. -/
lemma firstOfType_cons (m : MetaBean) (ms : List MetaBean) :
    firstOfType (m :: ms) = m :: firstOfType (ms.filter fun k => !k.type.same m.type) := by
  simp only [firstOfType, eraseDupsBy_cons, Bool.decide_eq_false]

namespace Knows

/-- No meta-beans are known at the start. -/
lemma empty : Registry.empty.Knows [] := ⟨rfl, fun _ => rfl, nodup_nil⟩

/-- The tables tell the registered meta-beans. -/
lemma eq_map_snd (h : r.Knows known) : known = r.metaBeans.map Prod.snd := by
  rw [h.metaBeans, map_map]
  exact (map_id known).symm

/-- Each registered meta-bean is found under the key of its type. -/
lemma lookup_metaBeans (h : r.Knows known) (hm : m ∈ known) :
    r.metaBeans.lookup m.type.key = some m := by
  have hkeys : ((known.map fun k => (k.type.key, k)).map Prod.fst).Nodup := by
    rw [map_map]
    exact h.nodup
  rw [h.metaBeans]
  exact lookup_of_nodup hkeys (mem_map_of_mem (f := fun k => (k.type.key, k)) hm)

/-- Nothing is found under the key of another type. -/
lemma lookup_metaBeans_eq_none (h : r.Knows known) (hnew : isNew known m = true) :
    r.metaBeans.lookup m.type.key = none := by
  rw [h.metaBeans]
  refine lookup_of_not_mem fun hmem => ?_
  obtain ⟨k, hk, hkey⟩ : ∃ k ∈ known, k.type.key = m.type.key := by simpa using hmem
  exact isNew_iff.mp hnew k hk hkey

/-- A type is registered if a meta-bean of it is. -/
lemma isRegistered_iff (h : r.Knows known) :
    r.isRegistered t = true ↔ ∃ m ∈ known, m.type.key = t.key := by
  have hkeys : r.metaBeans.map Prod.fst = known.map fun m => m.type.key := by
    rw [h.metaBeans, map_map]
    rfl
  rw [isRegistered, ← mem_map, ← hkeys]
  constructor
  · intro hsome
    obtain ⟨m, hm⟩ := Option.isSome_iff_exists.mp hsome
    exact mem_map_of_mem (mem_of_lookup hm)
  · intro hmem
    obtain ⟨m, hm⟩ := exists_lookup hmem
    rw [hm, Option.isSome_some]

/-- A meta-bean is new if its type is not registered. -/
lemma isRegistered_eq_not_isNew (h : r.Knows known) (m : MetaBean) :
    r.isRegistered m.type = !isNew known m := by
  rw [Bool.eq_iff_iff, h.isRegistered_iff, Bool.not_eq_true', isNew_eq_false_iff]

/-! ## Registering -/

/-- **A type is registered once**: registering it again fails and changes nothing. -/
theorem register_known (h : r.Knows known) (hknown : isNew known m = false) :
    r.register m = (.error (.duplicateRegistration m.name), r) := by
  rw [register, h.isRegistered_eq_not_isNew, hknown, Bool.not_false, if_pos rfl]

/-- **A meta-bean of a new type is registered after the others.** Its name stands for its type,
unless it stands for another already. -/
theorem register_new (h : r.Knows known) (hnew : isNew known m = true) :
    (r.register m).1 = .ok () ∧ (r.register m).2.Knows (known ++ [m]) := by
  rw [register, h.isRegistered_eq_not_isNew, hnew, Bool.not_true, if_neg Bool.false_ne_true]
  refine ⟨rfl, by simp [h.metaBeans], fun name => ?_, ?_⟩
  · rw [find?_append, Option.map_or, ← h.names name]
    by_cases hname : m.name = name
    · subst hname
      cases hfound : r.names.lookup m.name with
      | none => simp [lookup_append, hfound]
      | some key => simp [hfound]
    · have hother : [(m.name, m.type.key)].lookup name = none := by
        rw [lookup_cons, beq_false_of_ne (Ne.symm hname), lookup_nil]
      have hlast : [m].find? (fun k => k.name == name) = none := by simp [hname]
      rw [hlast, Option.map_none, Option.or_none]
      dsimp only
      split
      · rfl
      · rw [lookup_append, hother, Option.or_none]
  · rw [map_append, map_singleton]
    refine h.nodup.append (nodup_singleton _) (disjoint_singleton.mpr fun hmem => ?_)
    obtain ⟨k, hk, hkey⟩ := mem_map.mp hmem
    exact isNew_iff.mp hnew k hk hkey

/-- A registered meta-bean is what is looked up. -/
lemma lookup_known (h : r.Knows known) (hm : m ∈ known) (hkind : kind.type.key = m.type.key) :
    r.lookup kind = (m, r) := by
  rw [lookup, hkind, h.lookup_metaBeans hm]

/-- Looking up a kind of beans registers its meta-bean. -/
lemma lookup_new (h : r.Knows known) (hnew : isNew known kind.metaBean = true) :
    r.lookup kind = (kind.metaBean, (r.register kind.metaBean).2) := by
  have hnone : r.metaBeans.lookup kind.type.key = none := h.lookup_metaBeans_eq_none hnew
  have hok := (h.register_new hnew).1
  rw [lookup, hnone]
  dsimp only
  split
  case h_1 heq => rw [heq]
  case h_2 heq =>
    rw [heq] at hok
    cases hok

/-! ## Runs -/

/-- A call does what registering the offered meta-bean does. -/
lemma apply_of_offered (h : r.Knows known) (hm : c.offered? = some m) :
    c.apply r = (r.register m).2 := by
  cases c with
  | register m' | registerBean kind =>
    cases hm
    rfl
  | lookup kind =>
    cases hm
    change (r.lookup kind).2 = (r.register kind.metaBean).2
    cases hnew : isNew known kind.metaBean with
    | true => rw [h.lookup_new hnew]
    | false =>
      obtain ⟨k, hk, hkey : k.type.key = kind.type.key⟩ := isNew_eq_false_iff.mp hnew
      rw [h.lookup_known hk hkey.symm, h.register_known hnew]
  | registerDynamic kind => cases hm

/-- A call that offers nothing leaves the registered meta-beans as they are. -/
lemma apply_of_offered_none (h : r.Knows known) (hnone : c.offered? = none) :
    (c.apply r).Knows known := by
  cases c with
  | register | registerBean | lookup => cases hnone
  | registerDynamic kind => exact ⟨h.metaBeans, h.names, h.nodup⟩

/-- After a call, those types are registered that were before, and that of the offered meta-bean. -/
lemma isRegistered_apply_iff (h : r.Knows known) :
    (c.apply r).isRegistered t = true ↔
      r.isRegistered t = true ∨ ∃ m, c.offered? = some m ∧ m.type.key = t.key := by
  cases hoffered : c.offered? with
  | none =>
    rw [(h.apply_of_offered_none hoffered).isRegistered_iff, h.isRegistered_iff]
    simp
  | some m =>
    rw [h.apply_of_offered hoffered, h.isRegistered_iff]
    cases hnew : isNew known m with
    | true =>
      rw [(h.register_new hnew).2.isRegistered_iff]
      simp [or_and_right, exists_or]
    | false =>
      obtain ⟨k, hk, hkey⟩ := isNew_eq_false_iff.mp hnew
      rw [h.register_known hnew, h.isRegistered_iff]
      refine (or_iff_left_of_imp ?_).symm
      rintro ⟨m', hm', hkey'⟩
      obtain rfl := Option.some.inj hm'
      exact ⟨k, hk, hkey.trans hkey'⟩

/-- **The tables after a run**: to the meta-beans that are known come those that the calls offer of
other types.

The induction is on the calls, for any meta-beans that are known before. -/
theorem foldl_apply (h : r.Knows known) (calls : List RegistryCall) :
    (calls.foldl RegistryCall.apply r).Knows
      (known ++ firstOfType ((calls.filterMap RegistryCall.offered?).filter (isNew known))) := by
  induction calls generalizing r known with
  | nil =>
    rw [filterMap_nil, filter_nil, show firstOfType [] = [] from rfl, append_nil]
    exact h
  | cons c calls ih =>
    rw [foldl_cons]
    cases hoffered : c.offered? with
    | none =>
      rw [filterMap_cons_none hoffered]
      exact ih (h.apply_of_offered_none hoffered)
    | some m =>
      rw [filterMap_cons_some hoffered, h.apply_of_offered hoffered]
      cases hnew : isNew known m with
      | false =>
        rw [filter_cons_of_neg (by simp [hnew]), h.register_known hnew]
        exact ih h
      | true =>
        have hfilter : isNew (known ++ [m]) = fun k => isNew known k && !k.type.same m.type := by
          funext k
          simp [isNew]
        have hrun := ih (h.register_new hnew).2
        rw [hfilter] at hrun
        rw [filter_cons_of_pos hnew, firstOfType_cons, filter_filter]
        simpa [Bool.and_comm] using hrun

end Knows

/-- A run of calls and one more. -/
lemma after_concat (calls : List RegistryCall) (c : RegistryCall) :
    after (calls ++ [c]) = c.apply (after calls) := foldl_concat ..

/-- The tables after a run from the start. -/
lemma knows_after (calls : List RegistryCall) : (after calls).Knows (registrations calls) := by
  have hrun := Knows.empty.foldl_apply calls
  rwa [show isNew [] = fun _ => true from rfl, filter_true, nil_append] at hrun

/-- Later calls register further meta-beans only. -/
lemma exists_knows_after_append (calls later : List RegistryCall) :
    ∃ more, (after (calls ++ later)).Knows (registrations calls ++ more) := by
  rw [after, foldl_append]
  exact ⟨_, (knows_after calls).foldl_apply later⟩

/-- A new meta-bean is registered after all others of a run. -/
lemma registrations_concat (calls : List RegistryCall) (hm : c.offered? = some m)
    (hnew : isNew (registrations calls) m = true) :
    registrations (calls ++ [c]) = registrations calls ++ [m] := by
  have hrun : (after (calls ++ [c])).Knows (registrations calls ++ [m]) := by
    rw [after_concat, (knows_after calls).apply_of_offered hm]
    exact ((knows_after calls).register_new hnew).2
  rw [(knows_after (calls ++ [c])).eq_map_snd, ← hrun.eq_map_snd]

/-- The types that are registered by a run are those of the meta-beans that its calls offer. -/
lemma isRegistered_after_iff (calls : List RegistryCall) :
    (after calls).isRegistered t = true ↔
      ∃ c ∈ calls, ∃ m, c.offered? = some m ∧ m.type.key = t.key := by
  induction calls using reverseRecOn with
  | nil => simp [after, isRegistered, Registry.empty]
  | append_singleton calls c ih =>
    rw [after_concat, (knows_after calls).isRegistered_apply_iff, ih]
    simp [or_and_right, exists_or]

/-! ## Answers -/

/-- A registered meta-bean answers for its type before all else. -/
lemma Knows.byKey_eq (h : r.Knows known) (hm : m ∈ known) : r.byKey m.type.key name = .ok m := by
  rw [byKey, h.lookup_metaBeans hm]

/-- The first meta-bean of a name answers for it. -/
lemma Knows.byName_eq (h : r.Knows known) (hm : known.find? (fun k => k.name == name) = some m) :
    r.byName name = .ok m := by
  rw [byName, h.names, hm]
  exact h.byKey_eq (mem_of_find?_eq_some hm)

/-- A name that no registered meta-bean has stands for nothing. -/
lemma Knows.byName_eq_error_iff (h : r.Knows known) :
    r.byName name = .error (.unknownBeanType name) ↔ ∀ m ∈ known, m.name ≠ name := by
  constructor
  · intro herror m hm hname
    obtain ⟨k, hk⟩ : ∃ k, known.find? (fun k => k.name == name) = some k :=
      Option.isSome_iff_exists.mp (find?_isSome.mpr ⟨m, hm, beq_iff_eq.mpr hname⟩)
    rw [h.byName_eq hk] at herror
    cases herror
  · intro hnone
    have hfind : known.find? (fun k => k.name == name) = none :=
      find?_eq_none.mpr fun m hm => by simpa using hnone m hm
    rw [byName, h.names, hfind]
    rfl

end

/-- **What a registry answers after a run.** A type is registered if a call of the run offered a
meta-bean of it. Registering another one of such a type fails and changes nothing; one of any other
type is registered, whichever call offers it. Once a type is registered, its meta-bean is found by
the type in all ways, and this stays so whatever is called later on; looking it up changes nothing.
A name stands for the first registered meta-bean that has it, now and later on, and for nothing if
there is none. -/
theorem after_answers (calls : List RegistryCall) :
    let r := after calls
    let known := registrations calls
    (∀ t : BeanType, r.isRegistered t = true ↔
      ∃ c ∈ calls, ∃ m, c.offered? = some m ∧ m.type.key = t.key) ∧
    (∀ m : MetaBean, r.isRegistered m.type = true →
      r.register m = (.error (.duplicateRegistration m.name), r)) ∧
    (∀ m : MetaBean, r.isRegistered m.type = false →
      r.register m = (.ok (), after (calls ++ [.register m])) ∧
      ∀ c : RegistryCall, c.offered? = some m → registrations (calls ++ [c]) = known ++ [m]) ∧
    (∀ t : BeanType, r.isRegistered t = true → ∃ m ∈ known, m.type.key = t.key ∧
      ∀ later : List RegistryCall, let r' := after (calls ++ later)
        (∀ name, r'.byKey t.key name = .ok m) ∧
        ∀ kind : BeanKind, kind.type.key = t.key →
          r'.metaBean kind = .ok m ∧ r'.lookup kind = (m, r')) ∧
    (∀ name m, known.find? (fun k => k.name == name) = some m →
      ∀ later, (after (calls ++ later)).byName name = .ok m) ∧
    ∀ name, r.byName name = .error (.unknownBeanType name) ↔ ∀ m ∈ known, m.name ≠ name := by
  intro r known
  have hknows : r.Knows known := knows_after calls
  have hnew {m : MetaBean} {registered : Bool} (h : r.isRegistered m.type = registered) :
      isNew known m = !registered := by
    rw [← h, hknows.isRegistered_eq_not_isNew, Bool.not_not]
  refine ⟨fun t => isRegistered_after_iff calls, fun m h => hknows.register_known (hnew h),
    fun m h => ⟨?_, fun c hc => registrations_concat calls hc (hnew h)⟩,
    fun t h => ?_, fun name m hm later => ?_, fun name => hknows.byName_eq_error_iff⟩
  · rw [after_concat, RegistryCall.apply, ← (hknows.register_new (hnew h)).1]
  · obtain ⟨m, hm, hkey⟩ := hknows.isRegistered_iff.mp h
    refine ⟨m, hm, hkey, fun later => ?_⟩
    obtain ⟨more, hlater⟩ := exists_knows_after_append calls later
    have hm' : m ∈ known ++ more := mem_append_left more hm
    rw [← hkey]
    refine ⟨fun name => hlater.byKey_eq hm', fun kind hkind => ?_⟩
    rw [metaBean, hkind]
    exact ⟨hlater.byKey_eq hm', hlater.lookup_known hm' hkind⟩
  · obtain ⟨more, hlater⟩ := exists_knows_after_append calls later
    exact hlater.byName_eq (by rw [find?_append, hm, Option.some_or])

/-- Pairs of numbers and pairs of texts have one name, which stands for those that came first. -/
example :
    let calls : List RegistryCall :=
      [.lookup (.record Sample.pairOfNumbers), .registerBean (.record Sample.pairOfTexts)]
    ((after calls).byName "oracle::beans::Pair").toOption.map (·.type.key) =
      some "oracle::beans::Pair<u32>" := by decide +kernel

end Registry

end Beans
