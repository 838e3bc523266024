import Mathlib.Data.List.Nodup
import Mathlib.Tactic.Common
import Beans.Declaration.Rules

/-!
# Names of a declaration

The rules of a declaration ask that no two of its properties, be they stored or computed, and no
aliases have one name. They are checked in three rounds with the names that are taken so far. Here
the faults of the three rounds together are compared with the names that the declaration gives.

## Main definitions

* `Beans.BeanDecl.names`, `Beans.BeanDecl.otherNames` — the names of all properties, and the aliases.
* `Beans.BeanDecl.NamesApart` — all of them are different.

## Main results

* `Beans.BeanDecl.uniquenessFaults_reserved_iff` — all names are different exactly if nothing is
  faulty but names that generated code needs for itself.
* `Beans.BeanDecl.namesApart_of_violations_eq_nil` — the names of a declaration without violations.
-/

set_option autoImplicit false

open List

namespace Beans

/-! ## Names -/

/-- The names of the properties under some settings: of the stored ones, then of the computed ones. -/
def BeanDecl.names (d : BeanDecl) (s : Settings) : List String :=
  d.properties.map (fun p => p.propertyName s) ++ d.derived.map fun c => c.name.name

/-- The aliases of some properties. -/
def otherNames (ps : List PropertyDecl) : List String := ps.filterMap fun p => p.options.otherName

/-- The aliases. -/
def BeanDecl.otherNames (d : BeanDecl) : List String := Beans.otherNames d.properties

/-- All names and aliases are different. -/
structure BeanDecl.NamesApart (d : BeanDecl) (s : Settings) : Prop where
  names : (d.names s).Nodup
  others : d.otherNames.Nodup
  apart : ∀ other ∈ d.otherNames, other ∉ d.names s

/-! ## Faults -/

/-- The name of a property is one that generated code needs for itself. -/
def FaultAt.IsReserved (f : FaultAt) : Prop := ∃ name, f.fault = .reservedName name

/-- What a rule finds at fault if a condition holds. -/
@[simp] lemma mem_faultIf {condition : Bool} {line : Nat} {fault : Fault} {f : FaultAt} :
    f ∈ faultIf condition line fault ↔ condition = true ∧ f = ⟨line, fault, none⟩ := by
  cases condition <;> simp [faultIf]

/-- After the names all of them are taken. -/
lemma taken_nameFaults (taken : List String) (names : List NameAt) :
    (nameFaults taken names).2 = taken ++ names.map NameAt.name := by
  induction names generalizing taken with
  | nil => simp [nameFaults]
  | cons n rest ih => simp [nameFaults, ih]

/-- The names are different from each other and from those that are taken exactly if at most reserved
names are at fault. -/
lemma nameFaults_reserved_iff {taken : List String} {names : List NameAt} :
    (∀ f ∈ (nameFaults taken names).1, f.IsReserved) ↔
      (names.map NameAt.name).Nodup ∧ ∀ n ∈ names, n.name ∉ taken := by
  induction names generalizing taken with
  | nil => simp [nameFaults]
  | cons n rest ih =>
    have hhere : (∀ f ∈ faultIf (reservedNames.contains n.name) n.line (.reservedName n.name) ++
        faultIf (taken.contains n.name) n.line (.duplicateProperty n.name), f.IsReserved) ↔
          n.name ∉ taken := by
      constructor
      · intro h hmem
        obtain ⟨name, hname⟩ := h ⟨n.line, .duplicateProperty n.name, none⟩ (by simp [hmem])
        cases hname
      · intro h f hf
        rcases mem_append.mp hf with hf | hf
        · exact ⟨n.name, congrArg FaultAt.fault (mem_faultIf.mp hf).2⟩
        · exact absurd (by simpa using (mem_faultIf.mp hf).1) h
    simp only [nameFaults, forall_mem_append] at hhere ⊢
    rw [hhere, ih]
    -- what is left is about lists: the names after the first one have the first one taken, too
    simp only [map_cons, nodup_cons, forall_mem_cons, mem_append, mem_singleton, mem_map]
    grind

/-- The aliases are different from each other and from those that are taken exactly if none is at
fault. -/
lemma aliasFaults_eq_nil_iff {taken : List String} {ps : List PropertyDecl} :
    aliasFaults taken ps = [] ↔ (otherNames ps).Nodup ∧ ∀ other ∈ otherNames ps, other ∉ taken := by
  induction ps generalizing taken with
  | nil => simp [aliasFaults, otherNames]
  | cons p rest ih =>
    cases hother : p.options.otherName with
    | none => simpa [aliasFaults, otherNames, hother] using ih
    | some other =>
      have hhere : faultIf (taken.contains other) p.name.line (.clashingAlias other) = [] ↔
          other ∉ taken := by
        simp [faultIf]
      have hnames : otherNames (p :: rest) = other :: otherNames rest := by
        simp [otherNames, hother]
      simp only [aliasFaults, hother, append_eq_nil_iff, hhere, ih, hnames]
      simp only [nodup_cons, forall_mem_cons, mem_append, mem_singleton]
      grind

/-- An alias is at fault for nothing but a clash. -/
lemma not_isReserved_of_mem_aliasFaults {taken : List String} {ps : List PropertyDecl} {f : FaultAt}
    (h : f ∈ aliasFaults taken ps) : ¬ f.IsReserved := by
  induction ps generalizing taken with
  | nil => cases h
  | cons p rest ih =>
    rw [aliasFaults] at h
    split at h
    · rcases mem_append.mp h with h | h
      · rintro ⟨name, hname⟩
        rw [(mem_faultIf.mp h).2] at hname
        cases hname
      · exact ih h
    · exact ih h

/-! ## The three rounds -/

namespace BeanDecl

/-- **All names are different exactly if nothing is faulty but reserved names**: what the three rounds
find else is a clash, and each clash is found by one of them. -/
theorem uniquenessFaults_reserved_iff {d : BeanDecl} {s : Settings} :
    (∀ f ∈ uniquenessFaults d s, f.IsReserved) ↔ d.NamesApart s := by
  have hnames : (d.properties.map (fun p => NameAt.mk (p.propertyName s) p.name.line) ++
      d.derived.map DerivedDecl.name).map NameAt.name = d.names s := by
    simp [names, Function.comp_def]
  have haliases : (∀ f ∈ aliasFaults (d.names s) d.properties, f.IsReserved) ↔
      aliasFaults (d.names s) d.properties = [] := by
    refine ⟨fun h => eq_nil_iff_forall_not_mem.mpr fun f hf => ?_, fun h => by simp [h]⟩
    exact not_isReserved_of_mem_aliasFaults hf (h f hf)
  simp only [uniquenessFaults, forall_mem_append]
  rw [nameFaults_reserved_iff, taken_nameFaults, hnames, nil_append, haliases,
    aliasFaults_eq_nil_iff]
  exact ⟨fun ⟨⟨h, _⟩, hothers, hapart⟩ => ⟨h, hothers, hapart⟩,
    fun h => ⟨⟨h.names, by simp⟩, h.others, h.apart⟩⟩

/-- A declaration without violations has different names and aliases. -/
theorem namesApart_of_violations_eq_nil {d : BeanDecl} {s : Settings} (h : d.violations s = []) :
    d.NamesApart s := by
  have hfaults : uniquenessFaults d s = [] := by
    simp only [violations, append_eq_nil_iff] at h
    tauto
  exact uniquenessFaults_reserved_iff.mp (by simp [hfaults])

end BeanDecl

end Beans
