import Mathlib.Tactic.Common
import Beans.Proofs.Declaration.Names

/-!
# Rules and violations

The rules of a declaration are checked in one pass, some of them only after another one. Here each
rule is stated on its own, as what is at fault where it is broken, and the violations that are
reported are compared with that.

## Main definitions

* `Beans.BeanRule` — the rules.
* `Beans.BeanDecl.Breaks` — what is at fault by a rule, whatever other rules are broken.
* `Beans.BeanDecl.Violates` — a rule is broken.
* `Beans.BeanDecl.Overlooks` — a rule is not looked at.

## Main results

* `Beans.BeanDecl.mem_violations_iff` — what is reported is what is at fault by the rules that are
  looked at.
* `Beans.BeanDecl.violations_complete` — a declaration is accepted exactly if no rule is broken, and
  all faults are reported but the parent of a light bean that is mutable, too.
-/

set_option autoImplicit false

open List

namespace Beans

/-! ## Rules -/

/-- The rules of a declaration. -/
inductive BeanRule
  /-- A hint about the hierarchy is known. -/
  | hierarchy
  /-- Beans of the light style are immutable. -/
  | lightImmutable
  /-- Beans of the light style have no parent. -/
  | lightRoot
  /-- Beans of the minimal style have no parent. -/
  | minimalRoot
  /-- Beans with a factory are immutable. -/
  | factoryImmutable
  /-- Beans with a factory have no parent. -/
  | factoryRoot
  /-- The constructor has a scope in immutable beans only. -/
  | constructorScope
  /-- Beans that keep their hash code are immutable. -/
  | cacheImmutable
  /-- Beans that keep their hash code have a field for it, of the right type. -/
  | cacheField
  /-- The parent is in a field that is no property. -/
  | parentField
  /-- The properties of immutable beans are private. -/
  | privateProperties
  /-- The properties of immutable beans have no style of a setter. -/
  | noSetters
  /-- The properties of immutable beans can be read. -/
  | readable
  /-- The properties of immutable beans have no rejected type. -/
  | acceptedTypes
  /-- Fields of immutable beans that are no properties hold the parent or the kept hash code. -/
  | onlyProperties
  /-- The names of properties are not reserved. -/
  | freeNames
  /-- The names of properties are different. -/
  | uniqueNames
  /-- The aliases differ from each other and from the names of properties. -/
  | uniqueAliases
  /-- There are no parameters but types, and not too many of these. -/
  | parameters
  /-- What is generated is not derived, too. -/
  | derives
  /-- Generated types are not less visible than the bean. -/
  | scopes
deriving DecidableEq

namespace BeanDecl

/-- The names of the properties with their lines: of the stored ones, then of the computed ones. -/
def nameEntries (d : BeanDecl) (s : Settings) : List NameAt :=
  d.properties.map (fun p => ⟨p.propertyName s, p.name.line⟩) ++ d.derived.map DerivedDecl.name

/-- The number of type parameters. -/
def typeParameters (d : BeanDecl) : Nat :=
  (d.generics.params.filter fun (p, _) => match p with
    | .type .. => true
    | .lifetime | .const => false).length

/-- The traits that are generated for a bean in any case. -/
def generatedTraits (d : BeanDecl) : List String :=
  ["PartialEq", "Eq", "Hash"] ++ if d.options.clone = .omit then [] else ["Clone"]

/-- What is at fault by a rule. -/
def Breaks (d : BeanDecl) (s : Settings) (f : FaultAt) : BeanRule → Prop
  | .hierarchy => ∃ hint, d.options.hierarchy = some hint ∧
      isImmutableHierarchy (some hint) = false ∧ f = ⟨d.name.line, .unknownHierarchy hint, none⟩
  | .lightImmutable => d.style s = .light ∧ d.isImmutable = false ∧
      f = ⟨d.name.line, .lightNeedsImmutable, none⟩
  | .lightRoot => d.style s = .light ∧ d.isRoot = false ∧
      f = ⟨d.name.line, .styleWithParent "light", none⟩
  | .minimalRoot => d.style s = .minimal ∧ d.isRoot = false ∧
      f = ⟨d.name.line, .styleWithParent "minimal", none⟩
  | .factoryImmutable => ∃ factory, d.options.factory = some factory ∧ d.isImmutable = false ∧
      f = ⟨factory.line, .factoryNeedsRoot, none⟩
  | .factoryRoot => ∃ factory, d.options.factory = some factory ∧ d.isRoot = false ∧
      f = ⟨factory.line, .factoryNeedsRoot, none⟩
  | .constructorScope => d.isImmutable = false ∧ d.options.constructorScope.isSome = true ∧
      f = ⟨d.name.line, .constructorScopeOnMutable, none⟩
  | .cacheImmutable => d.options.cacheHash = true ∧ d.isImmutable = false ∧
      f = ⟨d.name.line, .cachedHashOnMutable, none⟩
  | .cacheField => d.options.cacheHash = true ∧
      ((d.field? "hash_cache" = none ∧ f = ⟨d.name.line, .cacheFieldMissing, none⟩) ∨
        ∃ field, d.field? "hash_cache" = some field ∧ field.ty.name? ≠ some "OnceLock" ∧
          f = ⟨field.tyLine, .cacheFieldType, none⟩)
  | .parentField => ∃ parent, d.options.parent = some parent ∧
      ((d.field? parent.name = none ∧ f = ⟨parent.line, .parentMissing parent.name, none⟩) ∨
        ∃ field, d.field? parent.name = some field ∧ field.isProperty = true ∧
          f = ⟨parent.line, .parentIsProperty parent.name, none⟩)
  | .privateProperties => d.isImmutable = true ∧ ∃ p ∈ d.properties,
      isInherited p.visibility = false ∧ f = ⟨p.visibilityLine, .visibleProperty, none⟩
  | .noSetters => d.isImmutable = true ∧ ∃ p ∈ d.properties, ∃ style,
      p.options.setStyle = some style ∧ (Text.trim style).isEmpty = false ∧
      f = ⟨p.name.line, .setterOnImmutable, none⟩
  | .readable => d.isImmutable = true ∧ ∃ p ∈ d.properties, ∃ style,
      p.options.getStyle = some style ∧ (Text.trim style).isEmpty = true ∧
      f = ⟨p.name.line, .unreadableProperty, none⟩
  | .acceptedTypes => d.isImmutable = true ∧ ∃ p ∈ d.properties, ∃ before word after reason,
      Syntax.typeWords p.ty.render = before ++ word :: after ∧
      s.profile.find? .invalidType word = some reason ∧
      (∀ w ∈ before, s.profile.find? .invalidType w = none) ∧
      f = ⟨p.tyLine, .rejectedType reason p.ty.render, none⟩
  | .onlyProperties => d.isImmutable = true ∧ ∃ field ∈ d.fields, field.isProperty = false ∧
      (∀ parent, d.options.parent = some parent → parent.name ≠ field.name.name) ∧
      ¬ (d.options.cacheHash = true ∧ field.name.name = "hash_cache") ∧
      f = ⟨field.name.line, .plainField field.name.name, none⟩
  | .freeNames => ∃ n ∈ d.nameEntries s, n.name ∈ reservedNames ∧
      f = ⟨n.line, .reservedName n.name, none⟩
  | .uniqueNames => ∃ before n after, d.nameEntries s = before ++ n :: after ∧
      n.name ∈ before.map NameAt.name ∧ f = ⟨n.line, .duplicateProperty n.name, none⟩
  | .uniqueAliases => ∃ before p after, d.properties = before ++ p :: after ∧ ∃ other,
      p.options.otherName = some other ∧ (other ∈ d.names s ∨ other ∈ Beans.otherNames before) ∧
      f = ⟨p.name.line, .clashingAlias other, none⟩
  | .parameters =>
      (∃ line, (.lifetime, line) ∈ d.generics.params ∧ f = ⟨line, .lifetimeParameter, none⟩) ∨
      (∃ line, (.const, line) ∈ d.generics.params ∧ f = ⟨line, .constParameter, none⟩) ∨
      parameterLimit < d.typeParameters ∧
        f = ⟨d.generics.line.getD d.name.line, .tooManyParameters parameterLimit, none⟩
  | .derives =>
      (d.style s = .full ∧ ∃ trait ∈ d.generatedTraits, d.has trait = true ∧
        f = ⟨d.name.line, .derivedAndGenerated trait, none⟩) ∨
      d.style s ≠ .full ∧ d.options.clone = .generate ∧ d.has "Clone" = true ∧
        f = ⟨d.name.line, .cloneDerivedAndGenerated, none⟩
  | .scopes => ∃ entry scope rank,
      (entry, scope) ∈ [("meta_scope", d.options.metaScope), ("builder_scope", d.options.builderScope)] ∧
      scopeRank? scope = some rank ∧ rank < visibilityRank d.visibility ∧
      f = ⟨d.name.line, .narrowScope entry, none⟩

/-- A declaration breaks a rule. -/
def Violates (d : BeanDecl) (s : Settings) (r : BeanRule) : Prop := ∃ f, d.Breaks s f r

/-- A rule is not looked at: the one against parents of light beans, if the bean is mutable. -/
def Overlooks (d : BeanDecl) (r : BeanRule) : Prop := r = .lightRoot ∧ d.isImmutable = false

/-! ## What the rounds report -/

variable {d : BeanDecl} {s : Settings} {f : FaultAt}

/-- The round on the hierarchy. -/
lemma mem_hierarchyFaults : f ∈ hierarchyFaults d ↔ d.Breaks s f .hierarchy := by
  rw [hierarchyFaults, Breaks]
  cases d.options.hierarchy <;> simp

/-- The round on the styles with a table. The parent of a light bean is looked at only if the bean is
immutable. -/
lemma mem_styleFaults : f ∈ styleFaults d (d.style s) ↔ d.Breaks s f .lightImmutable ∨
    (d.Breaks s f .lightRoot ∧ d.isImmutable = true) ∨ d.Breaks s f .minimalRoot := by
  simp only [styleFaults, Breaks]
  cases d.style s <;> cases d.isImmutable <;> simp [BeanStyle.word]

/-- The round on the factory, which has one message for both rules. -/
lemma mem_factoryFaults :
    f ∈ factoryFaults d ↔ d.Breaks s f .factoryImmutable ∨ d.Breaks s f .factoryRoot := by
  simp only [factoryFaults, Breaks]
  cases d.options.factory <;> cases d.isImmutable <;> cases d.isRoot <;> simp

/-- The round on the scope of the constructor. -/
lemma mem_constructorFaults : f ∈ constructorFaults d ↔ d.Breaks s f .constructorScope := by
  simp [constructorFaults, Breaks, and_assoc]

/-- The round on the kept hash code. -/
lemma mem_cacheFaults :
    f ∈ cacheFaults d ↔ d.Breaks s f .cacheImmutable ∨ d.Breaks s f .cacheField := by
  simp only [cacheFaults, Breaks]
  cases d.options.cacheHash with
  | false => simp
  | true => cases d.field? "hash_cache" <;> simp

/-- The round on the parent. -/
lemma mem_parentFaults : f ∈ parentFaults d ↔ d.Breaks s f .parentField := by
  simp only [parentFaults, Breaks]
  cases d.options.parent with
  | none => simp
  | some parent => cases hfield : d.field? parent.name <;> simp [hfield]

/-- A type is rejected for the first of its words that a reason is given for. -/
lemma mem_rejection? {ty : String} {line : Nat} :
    (∃ fault, rejection? ty s = some fault ∧ f = ⟨line, fault, none⟩) ↔
      ∃ before word after reason, Syntax.typeWords ty = before ++ word :: after ∧
        s.profile.find? .invalidType word = some reason ∧
        (∀ w ∈ before, s.profile.find? .invalidType w = none) ∧
        f = ⟨line, .rejectedType reason ty, none⟩ := by
  simp only [rejection?, Option.map_eq_some_iff, findSome?_eq_some_iff]
  constructor
  · rintro ⟨_, ⟨reason, ⟨before, word, after, hwords, hreason, hbefore⟩, rfl⟩, rfl⟩
    exact ⟨before, word, after, reason, hwords, hreason, hbefore, rfl⟩
  · rintro ⟨before, word, after, reason, hwords, hreason, hbefore, rfl⟩
    exact ⟨_, ⟨reason, ⟨before, word, after, hwords, hreason, hbefore⟩, rfl⟩, rfl⟩

/-- What is at fault with one property of an immutable bean. -/
lemma mem_frozenPropertyFaults {p : PropertyDecl} : f ∈ frozenPropertyFaults s p ↔
    (isInherited p.visibility = false ∧ f = ⟨p.visibilityLine, .visibleProperty, none⟩) ∨
    (∃ style, p.options.setStyle = some style ∧ (Text.trim style).isEmpty = false ∧
      f = ⟨p.name.line, .setterOnImmutable, none⟩) ∨
    (∃ style, p.options.getStyle = some style ∧ (Text.trim style).isEmpty = true ∧
      f = ⟨p.name.line, .unreadableProperty, none⟩) ∨
    ∃ before word after reason, Syntax.typeWords p.ty.render = before ++ word :: after ∧
      s.profile.find? .invalidType word = some reason ∧
      (∀ w ∈ before, s.profile.find? .invalidType w = none) ∧
      f = ⟨p.tyLine, .rejectedType reason p.ty.render, none⟩ := by
  rw [← mem_rejection?]
  simp only [frozenPropertyFaults, mem_append, mem_faultIf, Option.any_eq_true, Bool.not_eq_true',
    ← exists_and_right, and_assoc, or_assoc]
  cases rejection? p.ty.render s <;> simp

/-- What is at fault with one field of an immutable bean that is no property. -/
lemma mem_frozenFieldFaults {field : FieldDecl} : f ∈ frozenFieldFaults d field ↔
    (∀ parent, d.options.parent = some parent → parent.name ≠ field.name.name) ∧
      ¬ (d.options.cacheHash = true ∧ field.name.name = "hash_cache") ∧
      f = ⟨field.name.line, .plainField field.name.name, none⟩ := by
  rw [frozenFieldFaults, mem_faultIf, Bool.not_eq_true', Bool.or_eq_false_iff, and_assoc]
  cases d.options.parent <;> simp

/-- The round on the properties and fields of immutable beans. -/
lemma mem_frozenFaults : f ∈ frozenFaults d s ↔ d.Breaks s f .privateProperties ∨
    d.Breaks s f .noSetters ∨ d.Breaks s f .readable ∨ d.Breaks s f .acceptedTypes ∨
    d.Breaks s f .onlyProperties := by
  simp only [frozenFaults, Breaks]
  cases d.isImmutable with
  | false => simp
  | true =>
    simp only [Bool.not_true, Bool.false_eq_true, if_false, mem_append, mem_flatMap, mem_filter,
      mem_frozenPropertyFaults, mem_frozenFieldFaults, Bool.not_eq_true', true_and, and_or_left,
      exists_or, or_assoc, and_assoc]

/-! ### Names -/

/-- A place in a list is its start or a place in the rest. -/
lemma exists_place_cons {α : Type} {a : α} {l : List α} {P : List α → α → Prop} :
    (∃ before x after, a :: l = before ++ x :: after ∧ P before x) ↔
      P [] a ∨ ∃ before x after, l = before ++ x :: after ∧ P (a :: before) x := by
  constructor
  · rintro ⟨before, x, after, hl, h⟩
    cases before with
    | nil =>
      obtain ⟨rfl, rfl⟩ := cons_eq_cons.mp hl
      exact .inl h
    | cons b before =>
      obtain ⟨rfl, rfl⟩ := cons_eq_cons.mp hl
      exact .inr ⟨before, x, after, rfl, h⟩
  · rintro (h | ⟨before, x, after, rfl, h⟩)
    · exact ⟨[], a, l, rfl, h⟩
    · exact ⟨a :: before, x, after, rfl, h⟩

/-- The faults of names: one is reserved, or it is taken at first or by a name before it. -/
lemma mem_nameFaults {taken : List String} {names : List NameAt} :
    f ∈ (nameFaults taken names).1 ↔
      (∃ n ∈ names, n.name ∈ reservedNames ∧ f = ⟨n.line, .reservedName n.name, none⟩) ∨
      ∃ before n after, names = before ++ n :: after ∧
        n.name ∈ taken ++ before.map NameAt.name ∧ f = ⟨n.line, .duplicateProperty n.name, none⟩ := by
  induction names generalizing taken with
  | nil => simp [nameFaults]
  | cons n rest ih =>
    simp only [nameFaults, mem_append, mem_faultIf, contains_iff_mem, ih, exists_mem_cons_iff]
    rw [exists_place_cons]
    simp only [map_cons, map_nil, mem_cons, not_mem_nil, or_false, or_assoc]
    exact or_congr_right or_left_comm

/-- The faults of aliases: one is taken at first or by an alias before it. -/
lemma mem_aliasFaults {taken : List String} {ps : List PropertyDecl} :
    f ∈ aliasFaults taken ps ↔ ∃ before p after, ps = before ++ p :: after ∧
      ∃ other, p.options.otherName = some other ∧
        (other ∈ taken ∨ other ∈ Beans.otherNames before) ∧
        f = ⟨p.name.line, .clashingAlias other, none⟩ := by
  induction ps generalizing taken with
  | nil => simp [aliasFaults]
  | cons p rest ih =>
    rw [exists_place_cons]
    cases hother : p.options.otherName with
    | none => simp [aliasFaults, hother, ih, Beans.otherNames]
    | some other =>
      simp [aliasFaults, hother, ih, Beans.otherNames, or_assoc]

/-- The rounds on names and aliases. -/
lemma mem_uniquenessFaults : f ∈ uniquenessFaults d s ↔ d.Breaks s f .freeNames ∨
    d.Breaks s f .uniqueNames ∨ d.Breaks s f .uniqueAliases := by
  have hnames : (d.nameEntries s).map NameAt.name = d.names s := by
    simp [nameEntries, names, Function.comp_def]
  have hround : uniquenessFaults d s =
      (nameFaults [] (d.nameEntries s)).1 ++ aliasFaults (d.names s) d.properties := by
    rw [← hnames, ← nil_append (map _ _), ← taken_nameFaults]
    rfl
  rw [hround, mem_append, mem_nameFaults, mem_aliasFaults]
  simp only [Breaks, nil_append, or_assoc]

/-! ### Parameters, traits and scopes -/

/-- The round on the parameters. -/
lemma mem_parameterFaults : f ∈ parameterFaults d ↔ d.Breaks s f .parameters := by
  rw [parameterFaults, mem_append, mem_flatMap, mem_faultIf, decide_eq_true_iff]
  refine Iff.trans (or_congr_left ?_) or_assoc
  constructor
  · rintro ⟨⟨p, line⟩, hp, hf⟩
    cases p with
    | type => cases hf
    | lifetime => exact .inl ⟨line, hp, mem_singleton.mp hf⟩
    | const => exact .inr ⟨line, hp, mem_singleton.mp hf⟩
  · rintro (⟨line, hp, rfl⟩ | ⟨line, hp, rfl⟩)
    · exact ⟨_, hp, mem_singleton_self _⟩
    · exact ⟨_, hp, mem_singleton_self _⟩

/-- The round on what is derived. -/
lemma mem_deriveFaults : f ∈ deriveFaults d (d.style s) ↔ d.Breaks s f .derives := by
  rw [Breaks]
  cases d.style s with
  | full =>
    have hround : deriveFaults d .full = (d.generatedTraits.filter d.has).map fun trait =>
        ⟨d.name.line, .derivedAndGenerated trait, none⟩ := rfl
    rw [hround, mem_map]
    simp only [mem_filter, and_assoc, eq_comm, true_and, ne_eq, not_true, false_and, or_false]
  | smart | light | minimal => simp [deriveFaults, and_assoc]

/-- The round on the scopes. -/
lemma mem_scopeFaults : f ∈ scopeFaults d ↔ d.Breaks s f .scopes := by
  rw [scopeFaults, mem_flatMap, Breaks]
  constructor
  · rintro ⟨⟨entry, scope⟩, hentry, hf⟩
    obtain ⟨hnarrow, rfl⟩ := mem_faultIf.mp hf
    obtain ⟨rank, hrank, hless⟩ := (Option.any_eq_true ..).mp hnarrow
    exact ⟨entry, scope, rank, hentry, hrank, of_decide_eq_true hless, rfl⟩
  · rintro ⟨entry, scope, rank, hentry, hrank, hless, rfl⟩
    refine ⟨(entry, scope), hentry, mem_faultIf.mpr ⟨?_, rfl⟩⟩
    exact (Option.any_eq_true ..).mpr ⟨rank, hrank, decide_eq_true hless⟩

/-! ## All rounds -/

/-- **What is reported is what is at fault by the rules that are looked at.** -/
theorem mem_violations_iff : f ∈ d.violations s ↔ ∃ r, d.Breaks s f r ∧ ¬ d.Overlooks r := by
  simp only [violations, mem_append]
  rw [mem_hierarchyFaults (s := s), mem_styleFaults, mem_factoryFaults (s := s),
    mem_constructorFaults (s := s), mem_cacheFaults (s := s), mem_parentFaults (s := s),
    mem_frozenFaults, mem_uniquenessFaults, mem_parameterFaults (s := s), mem_deriveFaults,
    mem_scopeFaults (s := s)]
  simp only [or_assoc]
  constructor
  · have hseen {r : BeanRule} (hr : r ≠ .lightRoot) (h : d.Breaks s f r) :
        ∃ r, d.Breaks s f r ∧ ¬ d.Overlooks r :=
      ⟨r, h, fun ho => hr ho.1⟩
    rintro (h | h | ⟨h, himmutable⟩ | h)
    · exact hseen (by decide) h
    · exact hseen (by decide) h
    · exact ⟨_, h, fun ho => absurd himmutable (by simp [ho.2])⟩
    · rcases h with h | h | h | h | h | h | h | h | h | h | h | h | h | h | h | h | h | h
      all_goals exact hseen (by decide) h
  · rintro ⟨r, h, hseen⟩
    cases r
    case lightRoot =>
      have himmutable : d.isImmutable = true := by simpa [Overlooks] using hseen
      simp only [h, himmutable, and_self, true_or, or_true]
    all_goals simp only [h, true_or, or_true]

/-- The parent of a light bean is at fault by one rule only. -/
lemma eq_lightRoot_of_breaks {r : BeanRule} (hlight : d.Breaks s f .lightRoot)
    (h : d.Breaks s f r) : r = .lightRoot := by
  obtain ⟨_, _, rfl⟩ := hlight
  cases r <;> simp [Breaks] at h ⊢

/-- Where the rule against parents of light beans is not looked at, another one is broken. -/
lemma breaks_lightImmutable {r : BeanRule} (h : d.Breaks s f r) (hover : d.Overlooks r) :
    d.Breaks s ⟨d.name.line, .lightNeedsImmutable, none⟩ .lightImmutable := by
  obtain ⟨rfl, hmutable⟩ := hover
  exact ⟨h.1, hmutable, rfl⟩

/-- **A declaration is accepted exactly if no rule is broken.** A rule that is not looked at does not
matter for that, since another one is broken along with it. -/
theorem violations_eq_nil_iff : d.violations s = [] ↔ ∀ r, ¬ d.Violates s r := by
  rw [eq_nil_iff_forall_not_mem]
  constructor
  · rintro hnone r ⟨f, h⟩
    by_cases hover : d.Overlooks r
    · have hother := breaks_lightImmutable h hover
      exact hnone _ (mem_violations_iff.mpr ⟨_, hother, fun ho => by cases ho.1⟩)
    · exact hnone f (mem_violations_iff.mpr ⟨r, h, hover⟩)
  · intro hall f hf
    obtain ⟨r, h, _⟩ := mem_violations_iff.mp hf
    exact hall r ⟨f, h⟩

/-- A light bean that is mutable and has a parent. -/
def layered : BeanDecl where
  name := ⟨"A", 3⟩
  visibility := .inherited
  generics := {}
  options := { style := some .light, parent := some ⟨"base", 2⟩ }
  fields := [⟨⟨"base", 4⟩, .path (.mk false [.mk "Base" .none]), 4, false⟩]
  properties := []
  derived := []
  derives := ["Default", "BeanDefinition"]
  doc := none

end BeanDecl

end Beans
