import Mathlib.Data.List.Forall2
import Mathlib.Tactic.Common
import Beans.Model.Bean
import Beans.Proofs.Order.Pointwise
import Beans.Proofs.Result

/-!
# Resolution of declarations

A model has one property for each that is declared, in the same order, and one for each that is
computed. Here is what a resolved model keeps of its declaration.

## Main definitions

* `Beans.PropertyModel.Resolves` — a model of a property is that of a declared one.
* `Beans.BeanModel.Resolves` — a model of a bean is that of a declaration.

## Main results

* `Beans.resolveProperties_eq_ok_iff` — properties are resolved one by one.
* `Beans.BeanModel.resolves_of_resolve` — what is resolved is the model of its declaration.
* `Beans.BeanModel.exists_resolve_iff` — when a declaration is resolved.
-/

set_option autoImplicit false

open List

namespace Beans

/-! ## Properties -/

/-- A model of a property is that of a declared one: the getter and the setter are those of the
styles, and immutable beans have no setters. -/
structure PropertyModel.Resolves (immutable : Bool) (s : Settings) (p : PropertyDecl)
    (m : PropertyModel) : Prop where
  name : m.name = p.propertyName s
  otherName : m.otherName = p.options.otherName
  getter : Getter.resolve p.options.getStyle p.ty p.options.ty.isSome s.profile = .ok m.getter
  setter : (if immutable then .ok .readOnly
    else Setter.resolve p.options.setStyle p.ty p.options.ty.isSome) = .ok m.setter

/-- What is resolved is the model of the declared property. -/
lemma PropertyModel.resolves_of_resolve {p : PropertyDecl} {immutable : Bool} {params : List String}
    {s : Settings} {m : PropertyModel} (h : resolve p immutable params s = .ok m) :
    m.Resolves immutable s p := by
  obtain ⟨getter, hgetter, h⟩ := bind_eq_ok_iff.mp h
  cases immutable with
  | true =>
    obtain rfl := Except.ok.inj h
    exact ⟨rfl, rfl, hgetter, rfl⟩
  | false =>
    obtain ⟨setter, hsetter, h⟩ := bind_eq_ok_iff.mp h
    obtain rfl := Except.ok.inj h
    exact ⟨rfl, rfl, hgetter, hsetter⟩

/-- A declared property is resolved if its styles are. -/
lemma PropertyModel.exists_resolve_iff {p : PropertyDecl} {immutable : Bool} {params : List String}
    {s : Settings} :
    (∃ m, resolve p immutable params s = .ok m) ↔
      (∃ g, Getter.resolve p.options.getStyle p.ty p.options.ty.isSome s.profile = .ok g) ∧
      ∃ w, (if immutable then .ok .readOnly
        else Setter.resolve p.options.setStyle p.ty p.options.ty.isSome) = .ok w := by
  constructor
  · rintro ⟨m, hm⟩
    have hresolves := resolves_of_resolve hm
    exact ⟨⟨_, hresolves.getter⟩, _, hresolves.setter⟩
  · rintro ⟨⟨g, hg⟩, w, hw⟩
    rw [resolve, hg, ok_bind]
    cases immutable with
    | true => exact ⟨_, rfl⟩
    | false => exact ⟨_, bind_eq_ok_iff.mpr ⟨w, hw, rfl⟩⟩

/-- Properties are resolved one by one. -/
theorem resolveProperties_eq_ok_iff {immutable : Bool} {params : List String} {s : Settings}
    {ps : List PropertyDecl} {models : List PropertyModel} :
    resolveProperties immutable params s ps = .ok models ↔
      Forall₂ (fun p m => PropertyModel.resolve p immutable params s = .ok m) ps models := by
  induction ps generalizing models with
  | nil => simp [resolveProperties, eq_comm]
  | cons p rest ih =>
    rw [resolveProperties, forall₂_cons_left_iff]
    constructor
    · intro h
      split at h
      case h_1 model others hmodel hothers =>
        obtain rfl := Except.ok.inj h
        exact ⟨model, others, hmodel, ih.mp hothers, rfl⟩
      all_goals cases h
    · rintro ⟨model, others, hmodel, hothers, rfl⟩
      rw [hmodel, ih.mpr hothers]

/-! ## Beans -/

/-- A model of a bean is that of a declaration. -/
structure BeanModel.Resolves (s : Settings) (d : BeanDecl) (b : BeanModel) : Prop where
  immutable : b.immutable = d.isImmutable
  parent : b.parent = ParentField.of? d
  properties : Forall₂ (PropertyModel.Resolves d.isImmutable s) d.properties b.properties
  computed : b.computed.map ComputedModel.name = d.derived.map fun c => c.name.name

namespace BeanModel

/-- **What is resolved is the model of its declaration.** -/
theorem resolves_of_resolve {d : BeanDecl} {s : Settings} {b : BeanModel}
    (h : resolve d s = .ok b) : b.Resolves s d := by
  obtain ⟨models, hmodels, h⟩ := bind_eq_ok_iff.mp h
  obtain rfl := Except.ok.inj h
  have hproperties := (resolveProperties_eq_ok_iff.mp hmodels).imp
    fun _ _ hm => PropertyModel.resolves_of_resolve hm
  refine ⟨rfl, rfl, hproperties, ?_⟩
  rw [map_map]
  rfl

/-- The factory has the name that the declaration gives it. -/
lemma factory_of_resolve {d : BeanDecl} {s : Settings} {b : BeanModel} (h : resolve d s = .ok b) :
    b.factory = d.options.factory.map NameAt.name := by
  obtain ⟨models, -, h⟩ := bind_eq_ok_iff.mp h
  obtain rfl := Except.ok.inj h
  rfl

variable {d : BeanDecl} {s : Settings} {b : BeanModel}

/-- **A declaration is resolved if the styles of its properties are.** -/
theorem exists_resolve_iff :
    (∃ b, resolve d s = .ok b) ↔ ∀ p ∈ d.properties,
      (∃ g, Getter.resolve p.options.getStyle p.ty p.options.ty.isSome s.profile = .ok g) ∧
      ∃ w, (if d.isImmutable then .ok .readOnly
        else Setter.resolve p.options.setStyle p.ty p.options.ty.isSome) = .ok w := by
  constructor
  · rintro ⟨b, hb⟩ p hp
    obtain ⟨m, -, hm⟩ := Order.exists_of_forall₂ (resolves_of_resolve hb).properties hp
    exact ⟨⟨_, hm.getter⟩, _, hm.setter⟩
  · intro h
    obtain ⟨models, hmodels⟩ := Order.exists_forall₂ fun p hp =>
      PropertyModel.exists_resolve_iff.mpr (h p hp)
    exact ⟨_, bind_eq_ok_iff.mpr ⟨models, resolveProperties_eq_ok_iff.mpr hmodels, rfl⟩⟩

/-- The properties have the names that the declaration gives them. -/
lemma Resolves.names (h : b.Resolves s d) :
    b.properties.map PropertyModel.name = d.properties.map fun p => p.propertyName s :=
  (Order.map_eq_of_forall₂ (h.properties.imp fun _ _ hm => hm.name.symm)).symm

/-- A bean without a parent has none in its model. -/
lemma Resolves.parent_eq_none (h : b.Resolves s d) (hroot : d.isRoot = true) : b.parent = none := by
  have hparent : d.options.parent = none := Option.isNone_iff_eq_none.mp hroot
  rw [h.parent, ParentField.of?, hparent]
  rfl

end BeanModel

/-! ## Plain declarations -/

/-- A property without visibility and documentation, all in one line. -/
def PropertyDecl.plain (line : Nat) (field : String) (ty : Syntax.Ty) (options : PropertyOptions) :
    PropertyDecl where
  name := ⟨field, line⟩
  ty := ty
  tyLine := line
  visibility := .inherited
  visibilityLine := line
  options := options
  doc := none
  line := line

/-- A bean that holds nothing but properties, declared in the first line. -/
def BeanDecl.plain (name : String) (options : BeanOptions) (properties : List PropertyDecl)
    (derived : List DerivedDecl) : BeanDecl where
  name := ⟨name, 1⟩
  visibility := .inherited
  generics := {}
  options := options
  fields := properties.map fun p => ⟨p.name, p.ty, p.tyLine, true⟩
  properties := properties
  derived := derived
  derives := []
  doc := none

end Beans
