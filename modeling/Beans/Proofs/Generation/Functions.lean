import Mathlib.Data.List.Nodup
import Mathlib.Data.List.Perm.Basic
import Mathlib.Tactic.Common
import Beans.Proofs.Declaration.Violations
import Beans.Proofs.Generation.Names

/-!
# Functions with one name

The functions of a bean get their names from different places: some have names of their own, the
factory has the name that the declaration gives it, getters have the names of their properties and
setters these with `set_` before them. The rules keep the names of properties apart from each other
and from the reserved ones. They say nothing about the name of the factory, nor about a property with
the name of a setter.

Names are compared without the raw mark, since with it they are still the same.

## Main definitions

* `Beans.BeanModel.functionNames` — the names of the functions.
* `Beans.BeanModel.SetterClashes` — a setter has the name of a getter.
* `Beans.BeanModel.FactoryClashes` — the factory has the name of a getter or of a function with a name
  of its own.
* `Beans.BeanModel.NamesKept` — what the rules say of the names in a model.

## Main results

* `Beans.BeanModel.functionNames_perm` — the names by the places that they come from.
* `Beans.BeanModel.functionNames_nodup_iff` — the functions of a declaration without violations have
  different names unless a setter or the factory clashes.
-/

set_option autoImplicit false

open List

namespace Beans

open Syntax Text

/-! ## Names of functions -/

/-- The raw mark of a bare name is put on in writing only. -/
lemma IsBareName.withoutRawMark_identifierText {name : String} (h : IsBareName name) :
    withoutRawMark (identifierText name) = name := by
  rw [identifierText]
  split
  · exact h.withoutRawMark_eq
  · exact withoutRawMark_raw name

/-- The name of a setter has no raw mark. -/
lemma PropertyModel.withoutRawMark_setterName (p : PropertyModel) :
    withoutRawMark p.setterName = p.setterName := by
  rw [withoutRawMark]
  cases hafter : afterStart? "r#" p.setterName with
  | none => rfl
  | some word =>
    have hlist := congrArg String.toList (afterStart?_eq_some_iff.mp hafter)
    rw [setterName, String.toList_append, String.toList_append] at hlist
    cases hlist

/-- The getter of a property is named by it. -/
lemma PropertyModel.names_getterFunction {p : PropertyModel} (h : IsBareName p.name) :
    (p.getterFunction.map fun f => withoutRawMark f.name) =
      if p.getter.hasMethod then [p.name] else [] := by
  rw [← Getter.isSome_method? p.getter p.ty p.field, getterFunction, map_map]
  cases p.getter.method? p.ty p.field with
  | none => rfl
  | some method => exact congrArg (· :: []) h.withoutRawMark_identifierText

/-- The setter of a property is named by it, too. -/
lemma PropertyModel.names_setterFunction (p : PropertyModel) :
    (p.setterFunction.map fun f => withoutRawMark f.name) =
      if p.setter.hasMethod then [p.setterName] else [] := by
  rw [setterFunction]
  cases p.setter.hasMethod with
  | false => rfl
  | true => exact congrArg (· :: []) p.withoutRawMark_setterName

/-- No setter has a reserved name. -/
lemma PropertyModel.setterName_not_reserved (p : PropertyModel) : p.setterName ∉ reservedNames := by
  intro hmem
  have hreserved : ∀ name ∈ reservedNames, afterStart? "set_" name = none := by decide +kernel
  have hnone := hreserved _ hmem
  rw [setterName, afterStart?_eq_some_iff.mpr rfl] at hnone
  cases hnone

namespace BeanModel

/-- The names of the functions of a bean, without the raw mark. -/
def functionNames (b : BeanModel) : List String := b.functions.map fun f => withoutRawMark f.name

/-- The functions with a name of their own: the meta-bean, the builders and the constructor. -/
def fixedFunctions (b : BeanModel) : List Function :=
  b.metaFunction :: b.builderFunctions ++ b.propertiesConstructor

/-- The names of these functions are different and reserved, and they have no raw mark. -/
lemma names_fixedFunctions (b : BeanModel) :
    (b.fixedFunctions.map Function.name).Nodup ∧
      ∀ f ∈ b.fixedFunctions, f.name ∈ reservedNames ∧ withoutRawMark f.name = f.name := by
  have hnames : b.fixedFunctions.map Function.name =
      "meta" :: (if b.hasBuilder then ["builder", "to_builder"] else []) ++
        if b.immutable then ["from_properties"] else [] := by
    rw [fixedFunctions, builderFunctions, propertiesConstructor]
    cases b.hasBuilder <;> cases b.immutable <;> rfl
  have hall : (b.fixedFunctions.map Function.name).Nodup ∧
      ∀ name ∈ b.fixedFunctions.map Function.name,
        name ∈ reservedNames ∧ withoutRawMark name = name := by
    rw [hnames]
    cases b.hasBuilder <;> cases b.immutable <;> decide +kernel
  exact ⟨hall.1, forall_mem_map.mp hall.2⟩

/-- The names of the getters. -/
def getterNames (b : BeanModel) : List String :=
  (b.properties.filter fun p => p.getter.hasMethod).map PropertyModel.name

/-- The names of the setters. -/
def setterNames (b : BeanModel) : List String :=
  (b.properties.filter fun p => p.setter.hasMethod).map PropertyModel.setterName

/-- A setter has the name of a getter. -/
def SetterClashes (b : BeanModel) : Prop :=
  ∃ p ∈ b.properties, ∃ q ∈ b.properties, p.setter.hasMethod = true ∧ q.getter.hasMethod = true ∧
    q.name = p.setterName

/-- The factory has the name of a function with a name of its own, or of a getter. -/
def FactoryClashes (b : BeanModel) : Prop :=
  ∃ factory, b.factory = some factory ∧
    ((∃ f ∈ b.fixedFunctions, f.name = withoutRawMark factory) ∨
      ∃ p ∈ b.properties, p.getter.hasMethod = true ∧ p.name = withoutRawMark factory)

/-! ## Where names come from -/

/-- What is made of those items alone that pass a test. -/
lemma flatMap_if {α β : Type} (l : List α) (test : α → Bool) (f : α → β) :
    (l.flatMap fun a => if test a then [f a] else []) = (l.filter test).map f := by
  induction l with
  | nil => rfl
  | cons a l ih => cases h : test a <;> simp [h, ih]

/-- **The names by the places that they come from**: functions with names of their own, the factory,
getters and setters. -/
theorem functionNames_perm {b : BeanModel} (hbare : ∀ p ∈ b.properties, IsBareName p.name) :
    b.functionNames ~ b.fixedFunctions.map Function.name ++
      (b.factory.toList.map withoutRawMark ++ (b.getterNames ++ b.setterNames)) := by
  have hfixed : (b.fixedFunctions.map fun f => withoutRawMark f.name) =
      b.fixedFunctions.map Function.name :=
    map_congr_left fun f hf => (b.names_fixedFunctions.2 f hf).2
  have hfactory : (b.factoryFunction.map fun f => withoutRawMark f.name) =
      b.factory.toList.map withoutRawMark := by
    rw [factoryFunction, map_map]
    refine map_congr_left fun factory _ => congrArg withoutRawMark ?_
    cases b.immutable <;> rfl
  have hproperties : (b.properties.flatMap fun p =>
      (p.getterFunction ++ p.setterFunction).map fun f => withoutRawMark f.name) =
        b.properties.flatMap fun p => (if p.getter.hasMethod then [p.name] else []) ++
          if p.setter.hasMethod then [p.setterName] else [] := by
    refine flatMap_congr fun p hp => ?_
    rw [map_append, PropertyModel.names_getterFunction (hbare p hp), p.names_setterFunction]
  have hfunctions : b.functions = b.fixedFunctions ++ b.factoryFunction ++
      b.properties.flatMap fun p => p.getterFunction ++ p.setterFunction := rfl
  rw [functionNames, hfunctions, map_append, map_append, hfixed, hfactory, map_flatMap, hproperties,
    append_assoc, getterNames, setterNames, ← flatMap_if, ← flatMap_if]
  exact ((flatMap_append_perm ..).symm.append_left _).append_left _

/-! ## What the rules say -/

/-- What the rules say of the names in a model: properties have different names that are not
reserved, and beans with a factory have no setters. -/
structure NamesKept (b : BeanModel) : Prop where
  bare : ∀ p ∈ b.properties, IsBareName p.name
  nodup : (b.properties.map PropertyModel.name).Nodup
  free : ∀ p ∈ b.properties, p.name ∉ reservedNames
  unset : ∀ factory, b.factory = some factory → ∀ p ∈ b.properties, p.setter.hasMethod = false

/-- The names of a declaration without violations are kept. -/
lemma namesKept_of_resolve {d : BeanDecl} {s : Settings} {b : BeanModel} (hnamed : d.FieldsNamed)
    (hvalid : d.violations s = []) (hresolved : resolve d s = .ok b) : b.NamesKept := by
  have hmodel := resolves_of_resolve hresolved
  have hrules := BeanDecl.violations_eq_nil_iff.mp hvalid
  have hnames := hmodel.names
  have hdeclared {m : PropertyModel} (hm : m ∈ b.properties) :
      ∃ p ∈ d.properties, p.propertyName s = m.name :=
    mem_map.mp (hnames ▸ mem_map_of_mem hm)
  refine ⟨fun m hm => ?_, ?_, fun m hm hreserved => ?_, fun factory hfactory m hm => ?_⟩
  · obtain ⟨p, hp, hname⟩ := hdeclared hm
    exact hname ▸ isBareName_propertyName (hnamed p hp) s.lead
  · rw [hnames]
    exact (BeanDecl.namesApart_of_violations_eq_nil hvalid).names.of_append_left
  · obtain ⟨p, hp, hname⟩ := hdeclared hm
    refine hrules .freeNames ⟨_, ⟨p.propertyName s, p.name.line⟩, ?_, hname ▸ hreserved, rfl⟩
    exact mem_append_left _ (mem_map_of_mem hp)
  · obtain ⟨entry, hentry, -⟩ := Option.map_eq_some_iff.mp (factory_of_resolve hresolved ▸ hfactory)
    have himmutable : d.isImmutable = true := by
      refine eq_true_of_ne_false fun hmutable => ?_
      exact hrules .factoryImmutable ⟨_, entry, hentry, hmutable, rfl⟩
    obtain ⟨p, -, hresolves⟩ := Order.exists_of_forall₂ hmodel.properties.flip hm
    have hsetter := hresolves.setter
    rw [himmutable] at hsetter
    rw [← Except.ok.inj hsetter]
    rfl

/-! ## Clashes -/

/-- No name of a getter is that of a setter unless a setter clashes. -/
lemma disjoint_setterNames_iff {b : BeanModel} :
    b.getterNames.Disjoint b.setterNames ↔ ¬ b.SetterClashes := by
  constructor
  · rintro hdisjoint ⟨p, hp, q, hq, hsetter, hgetter, hname⟩
    have hget : q.name ∈ b.getterNames := mem_map_of_mem (mem_filter.mpr ⟨hq, hgetter⟩)
    have hset : p.setterName ∈ b.setterNames := mem_map_of_mem (mem_filter.mpr ⟨hp, hsetter⟩)
    exact hdisjoint hget (hname ▸ hset)
  · intro hclash name hget hset
    obtain ⟨q, hq, rfl⟩ := mem_map.mp hget
    obtain ⟨p, hp, hname⟩ := mem_map.mp hset
    obtain ⟨hq, hgetter⟩ := mem_filter.mp hq
    obtain ⟨hp, hsetter⟩ := mem_filter.mp hp
    exact hclash ⟨p, hp, q, hq, hsetter, hgetter, hname.symm⟩

/-- The name of the factory is neither fixed nor that of a getter unless the factory clashes. -/
lemma disjoint_factory_iff {b : BeanModel} :
    (b.fixedFunctions.map Function.name).Disjoint (b.factory.toList.map withoutRawMark) ∧
        (b.factory.toList.map withoutRawMark).Disjoint b.getterNames ↔ ¬ b.FactoryClashes := by
  cases hfactory : b.factory with
  | none => simp [FactoryClashes, hfactory]
  | some factory =>
    rw [Option.toList_some, map_singleton, disjoint_singleton, singleton_disjoint, ← not_or]
    refine not_congr ⟨?_, ?_⟩
    · rintro (hmem | hmem)
      · exact ⟨factory, hfactory, .inl (mem_map.mp hmem)⟩
      · obtain ⟨p, hp, hname⟩ := mem_map.mp hmem
        obtain ⟨hp, hgetter⟩ := mem_filter.mp hp
        exact ⟨factory, hfactory, .inr ⟨p, hp, hgetter, hname⟩⟩
    · rintro ⟨other, hother, hclash⟩
      obtain rfl := Option.some.inj (hfactory.symm.trans hother)
      rcases hclash with hmem | ⟨p, hp, hgetter, hname⟩
      · exact .inl (mem_map.mpr hmem)
      · exact .inr (hname ▸ mem_map_of_mem (mem_filter.mpr ⟨hp, hgetter⟩))

namespace NamesKept

variable {b : BeanModel}

/-- The getters have different names. -/
lemma nodup_getterNames (h : b.NamesKept) : b.getterNames.Nodup :=
  h.nodup.sublist (filter_sublist.map _)

/-- The setters have different names. -/
lemma nodup_setterNames (h : b.NamesKept) : b.setterNames.Nodup := by
  have hnames : ((b.properties.filter fun p => p.setter.hasMethod).map PropertyModel.name).Nodup :=
    h.nodup.sublist (filter_sublist.map _)
  have hset : b.setterNames =
      ((b.properties.filter fun p => p.setter.hasMethod).map PropertyModel.name).map
        ("set_" ++ ·) := by
    rw [map_map]
    rfl
  rw [hset]
  exact hnames.map fun _ _ => (String.append_right_inj _).mp

/-- No getter and no setter has a fixed name. -/
lemma disjoint_fixed (h : b.NamesKept) :
    (b.fixedFunctions.map Function.name).Disjoint b.getterNames ∧
      (b.fixedFunctions.map Function.name).Disjoint b.setterNames := by
  have hfixed : ∀ name ∈ b.fixedFunctions.map Function.name, name ∈ reservedNames :=
    forall_mem_map.mpr fun f hf => (b.names_fixedFunctions.2 f hf).1
  refine ⟨fun name hname hget => ?_, fun name hname hset => ?_⟩
  · obtain ⟨p, hp, rfl⟩ := mem_map.mp hget
    exact h.free p (mem_of_mem_filter hp) (hfixed _ hname)
  · obtain ⟨p, -, rfl⟩ := mem_map.mp hset
    exact p.setterName_not_reserved (hfixed _ hname)

/-- Where there is a factory there are no setters. -/
lemma disjoint_factory_setterNames (h : b.NamesKept) :
    (b.factory.toList.map withoutRawMark).Disjoint b.setterNames := by
  intro name hmem hset
  obtain ⟨factory, hfactory, -⟩ := mem_map.mp hmem
  obtain ⟨p, hp, -⟩ := mem_map.mp hset
  obtain ⟨hp, hsetter⟩ := mem_filter.mp hp
  have hnone := h.unset factory (Option.mem_toList.mp hfactory) p hp
  rw [hsetter] at hnone
  cases hnone

/-- If the rules are kept, the functions have different names unless a setter or the factory clashes:
all other pairs of places are apart. -/
lemma nodup_iff (h : b.NamesKept) :
    b.functionNames.Nodup ↔ ¬ b.SetterClashes ∧ ¬ b.FactoryClashes := by
  have hfactory : (b.factory.toList.map withoutRawMark).Nodup := by
    cases b.factory <;> simp
  rw [(functionNames_perm h.bare).nodup_iff]
  simp only [nodup_append', disjoint_append_right]
  rw [← disjoint_setterNames_iff, ← disjoint_factory_iff]
  constructor
  · rintro ⟨-, ⟨-, ⟨-, -, hsetters⟩, hgetters, -⟩, hfixed, -⟩
    exact ⟨hsetters, hfixed, hgetters⟩
  · rintro ⟨hsetters, hfixed, hgetters⟩
    exact ⟨b.names_fixedFunctions.1,
      ⟨hfactory, ⟨h.nodup_getterNames, h.nodup_setterNames, hsetters⟩, hgetters,
        h.disjoint_factory_setterNames⟩,
      hfixed, h.disjoint_fixed⟩

end NamesKept

/-- **The functions of a declaration without violations have different names unless a setter or the
factory clashes**: a setter with a getter, or the factory with a getter, the meta-bean, a builder or
the constructor. Every other pair is kept apart by the rules. -/
theorem functionNames_nodup_iff {d : BeanDecl} {s : Settings} {b : BeanModel}
    (hnamed : d.FieldsNamed) (hvalid : d.violations s = []) (hresolved : resolve d s = .ok b) :
    b.functionNames.Nodup ↔ ¬ b.SetterClashes ∧ ¬ b.FactoryClashes :=
  (namesKept_of_resolve hnamed hvalid hresolved).nodup_iff

/-- An immutable bean with a factory. -/
def manufactured (factory : String) : BeanDecl :=
  .plain "A" { immutable := true, factory := some ⟨factory, 1⟩ } [.plain 2 "x" .never {}] []

/-- A mutable bean in which one property has the name of the setter of the other one. -/
def disguised : BeanDecl :=
  .plain "A" {} [.plain 2 "x" .never {}, .plain 3 "set_x" .never {}] []

lemma isFieldName_x : IsFieldName "x" :=
  ⟨.inl ⟨'x', [], rfl, by decide, forall_mem_nil _⟩, .inl (by decide)⟩

lemma fieldsNamed_manufactured (factory : String) : (manufactured factory).FieldsNamed :=
  forall_mem_singleton.mpr isFieldName_x

lemma fieldsNamed_disguised : disguised.FieldsNamed := by
  have hset : IsFieldName "set_x" :=
    ⟨.inl ⟨'s', "et_x".toList, rfl, by decide, all_eq_true.mp (by decide)⟩, .inl (by decide)⟩
  exact forall_mem_cons.mpr ⟨isFieldName_x, forall_mem_singleton.mpr hset⟩

/-- The setter of the first property has the name of the getter of the second one. -/
lemma setterClashes_disguised {b : BeanModel} (h : resolve disguised {} = .ok b) :
    b.SetterClashes := by
  obtain ⟨p, rest, hp, hrest, hproperties⟩ :=
    forall₂_cons_left_iff.mp (resolves_of_resolve h).properties
  obtain ⟨q, rest, hq, -, rfl⟩ := forall₂_cons_left_iff.mp hrest
  have hsetter : Setter.forType .never false = p.setter := Except.ok.inj hp.setter
  have hgetter : Getter.forType .never ({} : Settings).profile = q.getter :=
    Except.ok.inj hq.getter
  refine ⟨p, hproperties ▸ mem_cons_self, q, hproperties ▸ mem_cons_of_mem _ mem_cons_self,
    hsetter ▸ rfl, hgetter ▸ Getter.hasMethod_forType, ?_⟩
  rw [PropertyModel.setterName, hp.name, hq.name]
  decide +kernel

/-- A bean with a factory of another name than the generated functions. -/
theorem functionNames_nodup_iff_manufactured :
    ∃ b, resolve (manufactured "of") {} = .ok b ∧ b.functionNames.Nodup := by
  obtain ⟨b, hb⟩ : ∃ b, resolve (manufactured "of") {} = .ok b :=
    exists_resolve_iff.mpr (forall_mem_singleton.mpr ⟨⟨_, rfl⟩, _, rfl⟩)
  have hnamed := fieldsNamed_manufactured "of"
  have hvalid : (manufactured "of").violations {} = [] := by decide
  have hfactory : b.factory = some "of" := factory_of_resolve hb
  have hof : withoutRawMark "of" = "of" := by decide +kernel
  refine ⟨b, hb, (functionNames_nodup_iff hnamed hvalid hb).mpr ⟨?_, ?_⟩⟩
  · rintro ⟨p, hp, -, -, hsetter, -⟩
    rw [(namesKept_of_resolve hnamed hvalid hb).unset _ hfactory p hp] at hsetter
    cases hsetter
  · rintro ⟨factory, hsome, hclash⟩
    obtain rfl := Option.some.inj (hfactory.symm.trans hsome)
    rw [hof] at hclash
    rcases hclash with ⟨f, hf, hname⟩ | ⟨p, hp, -, hname⟩
    · have hreserved := (b.names_fixedFunctions.2 f hf).1
      rw [hname] at hreserved
      exact absurd hreserved (by decide)
    · have hproperties : b.properties.map PropertyModel.name = ["x"] :=
        (resolves_of_resolve hb).names.trans (by decide +kernel)
      have hx : p.name = "x" := mem_singleton.mp (hproperties ▸ mem_map_of_mem hp)
      exact absurd (hname.symm.trans hx) (by decide)

/-- The rules do not see the clashes: of declarations without violations one has two functions with
the name of a setter, and another one has two with the name of the meta-bean's function. -/
theorem exists_functions_clash :
    (∃ d s b, d.FieldsNamed ∧ d.violations s = [] ∧ resolve d s = .ok b ∧ b.SetterClashes ∧
      ¬ b.functionNames.Nodup) ∧
    ∃ d s b, d.FieldsNamed ∧ d.violations s = [] ∧ resolve d s = .ok b ∧ b.FactoryClashes ∧
      ¬ b.functionNames.Nodup := by
  constructor
  · obtain ⟨b, hb⟩ : ∃ b, resolve disguised {} = .ok b :=
      exists_resolve_iff.mpr (forall_mem_cons.mpr
        ⟨⟨⟨_, rfl⟩, _, rfl⟩, forall_mem_singleton.mpr ⟨⟨_, rfl⟩, _, rfl⟩⟩)
    have hvalid : disguised.violations {} = [] := by decide +kernel
    have hclash := setterClashes_disguised hb
    have hkept := namesKept_of_resolve fieldsNamed_disguised hvalid hb
    exact ⟨disguised, {}, b, fieldsNamed_disguised, hvalid, hb, hclash,
      fun hnodup => (hkept.nodup_iff.mp hnodup).1 hclash⟩
  · obtain ⟨b, hb⟩ : ∃ b, resolve (manufactured "meta") {} = .ok b :=
      exists_resolve_iff.mpr (forall_mem_singleton.mpr ⟨⟨_, rfl⟩, _, rfl⟩)
    have hnamed := fieldsNamed_manufactured "meta"
    have hvalid : (manufactured "meta").violations {} = [] := by decide
    have hmeta : withoutRawMark "meta" = "meta" := by decide +kernel
    have hclash : b.FactoryClashes :=
      ⟨"meta", factory_of_resolve hb, .inl ⟨b.metaFunction, mem_cons_self, hmeta.symm⟩⟩
    have hkept := namesKept_of_resolve hnamed hvalid hb
    exact ⟨manufactured "meta", {}, b, hnamed, hvalid, hb, hclash,
      fun hnodup => (hkept.nodup_iff.mp hnodup).2 hclash⟩

end BeanModel

end Beans
