import Mathlib.Tactic.Common
import Beans.Generation.MetaBean
import Beans.Proofs.Declaration.Names
import Beans.Proofs.Model.Resolution
import Beans.Proofs.Property.Draft

/-!
# Property maps of generated code

Generated code draws up a property map when it runs, and gives up if the names in it clash. The rules
of a declaration ask for different names, too, but they look at the declaration. For beans without a
parent both say the same: the map can be built exactly if the rules find no clash.

## Main definitions

* `Beans.MapScene` — what generated code finds when it runs.
* `Beans.MapStep.call` — what a call that is written does then.
* `Beans.BeanModel.drawnMap` — the draft of the map.

## Main results

* `Beans.BeanModel.exists_drawnMap_iff` — when the map of a bean without a parent can be built.
* `Beans.BeanModel.drawnMap_of_valid` — a declaration without violations has a map.
-/

set_option autoImplicit false

open List

namespace Beans

/-! ## Running generated code -/

/-- What generated code finds when it runs. -/
structure MapScene where
  /-- The type of the bean. -/
  type : BeanType
  /-- The declared type for the text of a type. -/
  declared : String → GenericType
  /-- The properties of a parent. -/
  inherited : ParentField → PropertyMap

/-- The meta-property of a stored property. -/
def BeanModel.storedProperty (b : BeanModel) (c : MapScene) (p : PropertyModel) : MetaProperty where
  name := p.name
  declaring := c.type
  holder := c.type
  generic := c.declared p.ty
  style := (b.attachment p).style
  settable := (b.attachment p).setter.isSome
  tags := p.tags

/-- The meta-property of a computed property. -/
def MapScene.computedProperty (c : MapScene) (p : ComputedModel) : MetaProperty where
  name := p.name
  declaring := c.type
  holder := c.type
  generic := c.declared p.ty
  style := .derived
  settable := false
  tags := []

/-- What a call does that is written in the code of a bean. -/
def MapStep.call (b : BeanModel) (c : MapScene) : MapStep → MapCall
  | .inherit parent => .inherit (c.inherited parent) (MetaProperty.inheritedBy c.type)
  | .stored p => .property (b.storedProperty c p)
  | .computed p => .property (c.computedProperty p)
  | .alsoNamed other name => .alsoNamed other name

/-- The draft of the property map that the code of a bean draws up. -/
def BeanModel.drawnMap (b : BeanModel) (c : MapScene) : MapDraft :=
  MapDraft.drawn c.type.name (b.mapSteps.map (MapStep.call b c))

/-! ## Beans without a parent -/

namespace BeanModel

/-- The aliases of the properties with the names that they stand for. -/
def aliases (b : BeanModel) : List (String × String) :=
  b.properties.filterMap fun p => p.otherName.map fun other => (other, p.name)

variable {b : BeanModel}

/-- What the code of a bean without a parent draws up: the stored properties, the computed ones, and
the aliases.

**Proof sketch.** The steps are those for properties, those for computed properties and those for
aliases, one after the other. The first two give properties only, and the last ones aliases only. -/
lemma drawnMap_eq (hparent : b.parent = none) (c : MapScene) :
    b.drawnMap c = ⟨c.type.name,
      b.properties.map (b.storedProperty c) ++ b.computed.map c.computedProperty, b.aliases⟩ := by
  have hother (p : PropertyModel) :
      (p.otherName.map (MapStep.alsoNamed · p.name)).map (MapStep.call b c) =
        p.otherName.map (MapCall.alsoNamed · p.name) := by
    cases p.otherName <;> rfl
  have hproperties : (b.properties.filterMap fun p =>
      p.otherName.map (MapCall.alsoNamed · p.name)).flatMap MapCall.properties = [] := by
    simp only [flatMap_eq_nil_iff, mem_filterMap, Option.map_eq_some_iff]
    rintro _ ⟨p, -, other, -, rfl⟩
    rfl
  have haliases : (b.properties.filterMap fun p =>
      p.otherName.map (MapCall.alsoNamed · p.name)).flatMap MapCall.aliases = b.aliases := by
    rw [aliases]
    induction b.properties with
    | nil => rfl
    | cons p ps ih =>
      cases hp : p.otherName with
      | none => simpa [hp] using ih
      | some other => simpa [hp, MapCall.aliases] using ih
  have hsteps : b.mapSteps.map (MapStep.call b c) =
      b.properties.map (fun p => MapCall.property (b.storedProperty c p)) ++
        b.computed.map (fun p => MapCall.property (c.computedProperty p)) ++
        b.properties.filterMap fun p => p.otherName.map (MapCall.alsoNamed · p.name) := by
    simp only [mapSteps, hparent, Option.toList_none, map_nil, nil_append, map_append, map_map,
      map_filterMap, hother]
    rfl
  rw [drawnMap, MapDraft.drawn_eq, hsteps]
  have hcalls {α : Type} (f : α → MetaProperty) (l : List α) :
      (l.map fun a => MapCall.property (f a)).flatMap MapCall.properties = l.map f ∧
        (l.map fun a => MapCall.property (f a)).flatMap MapCall.aliases = [] := by
    constructor
    · rw [flatMap_map]
      exact (map_eq_flatMap).symm
    · simp [flatMap_map, MapCall.aliases]
  simp only [flatMap_append, hcalls, hproperties, haliases, append_nil, nil_append]

/-- The names in the draft are those that the declaration gives. -/
lemma names_drawnMap {d : BeanDecl} {s : Settings} (hmodel : b.Resolves s d)
    (hparent : b.parent = none) (c : MapScene) :
    (b.drawnMap c).properties.map MetaProperty.name = d.names s := by
  rw [drawnMap_eq hparent, BeanDecl.names, map_append, map_map, map_map, ← hmodel.names,
    ← hmodel.computed]
  rfl

/-- The aliases in the draft are those that the declaration gives, each with the name of its
property. -/
lemma aliases_eq {d : BeanDecl} {s : Settings} (hmodel : b.Resolves s d) :
    b.aliases = d.properties.filterMap fun p =>
      p.options.otherName.map fun other => (other, p.propertyName s) := by
  have hproperties := hmodel.properties
  rw [aliases]
  generalize b.properties = models at hproperties ⊢
  generalize d.properties = declared at hproperties ⊢
  induction hproperties with
  | nil => rfl
  | cons h _ ih => rw [filterMap_cons, filterMap_cons, h.name, h.otherName, ih]

/-- The aliases in the draft by themselves. -/
lemma keys_aliases {d : BeanDecl} {s : Settings} (hmodel : b.Resolves s d) :
    b.aliases.map Prod.fst = d.otherNames := by
  have hkey (p : PropertyDecl) :
      (p.options.otherName.map fun other => (other, p.propertyName s)).map Prod.fst =
        p.options.otherName := by
    cases p.options.otherName <;> rfl
  rw [aliases_eq hmodel, map_filterMap]
  simp only [hkey]
  rfl

section

variable {d : BeanDecl} {s : Settings}

/-- The draft is coherent if the names of the declaration are apart: each alias stands for the name
of its property. -/
lemma coherent_drawnMap_iff (hmodel : b.Resolves s d) (hparent : b.parent = none) (c : MapScene) :
    (b.drawnMap c).Coherent ↔ d.NamesApart s := by
  have hnames := names_drawnMap hmodel hparent c
  have haliases : (b.drawnMap c).aliases = b.aliases := by rw [drawnMap_eq hparent]
  have hkeys := keys_aliases hmodel
  have htarget (a : String × String) (ha : a ∈ b.aliases) : a.2 ∈ d.names s := by
    rw [aliases_eq hmodel] at ha
    obtain ⟨p, hp, hother⟩ := mem_filterMap.mp ha
    obtain ⟨other, -, rfl⟩ := Option.map_eq_some_iff.mp hother
    exact mem_append_left _ (mem_map_of_mem hp)
  constructor
  · intro h
    refine ⟨hnames ▸ h.names, hkeys ▸ haliases ▸ h.aliases, fun other hother => ?_⟩
    rw [← hkeys, ← haliases] at hother
    obtain ⟨a, ha, rfl⟩ := mem_map.mp hother
    exact hnames ▸ h.apart a ha
  · intro h
    refine ⟨hnames ▸ h.names, haliases ▸ hkeys ▸ h.others, fun a ha => ?_, ?_⟩
    · rw [hnames]
      exact h.apart a.1 (hkeys ▸ mem_map_of_mem (haliases ▸ ha))
    · intro before a after hsplit
      rw [hnames]
      exact .inl (htarget a (haliases ▸ hsplit ▸ mem_append_right before mem_cons_self))

/-- **When the map of a bean without a parent can be built**: if the rules for names find nothing, or
nothing but names that generated code needs for itself. -/
theorem exists_drawnMap_iff (hroot : d.isRoot = true) (hresolved : resolve d s = .ok b)
    (c : MapScene) :
    (∃ m, (b.drawnMap c).build = .ok m) ↔ ∀ f ∈ uniquenessFaults d s, f.IsReserved := by
  have hmodel := resolves_of_resolve hresolved
  rw [(MapDraft.build_outcome _).exists_ok_iff,
    coherent_drawnMap_iff hmodel (hmodel.parent_eq_none hroot) c,
    BeanDecl.uniquenessFaults_reserved_iff]

/-- **A declaration without violations has a map**, if it has no parent: its code does not give up.
The map has the names of the stored properties in their order and then those of the computed ones,
each once, and under each alias the property that has it. -/
theorem drawnMap_of_valid (hroot : d.isRoot = true) (hvalid : d.violations s = [])
    (hresolved : resolve d s = .ok b) (c : MapScene) :
    ∃ m, (b.drawnMap c).build = .ok m ∧
      m.names = d.properties.map (fun p => p.propertyName s) ++ d.derived.map (·.name.name) ∧
      m.names.Nodup ∧
      (∀ key, m.contains key = true ↔ key ∈ m.names ∨ key ∈ d.otherNames) ∧
      ∀ p ∈ d.properties, ∀ other, p.options.otherName = some other →
        m.contains other = true ∧ m.find? other = m.find? (p.propertyName s) := by
  have hmodel := resolves_of_resolve hresolved
  have hparent := hmodel.parent_eq_none hroot
  have hapart := BeanDecl.namesApart_of_violations_eq_nil hvalid
  have hnames := names_drawnMap hmodel hparent c
  have haliases : (b.drawnMap c).aliases = b.aliases := by rw [drawnMap_eq hparent]
  have hkeys := keys_aliases hmodel
  obtain ⟨m, hm, hresolves⟩ :=
    (MapDraft.build_outcome _).1 ((coherent_drawnMap_iff hmodel hparent c).mpr hapart)
  have hmnames : m.names = d.names s := by rw [PropertyMap.names, hresolves.properties, hnames]
  have hcontains (key : String) : m.contains key = true ↔ key ∈ m.names ∨ key ∈ d.otherNames := by
    rw [hresolves.contains, hnames, haliases, hkeys, hmnames]
  refine ⟨m, hm, hmnames, hmnames ▸ hapart.names, hcontains, fun p hp other hother => ?_⟩
  have halias : (other, p.propertyName s) ∈ (b.drawnMap c).aliases := by
    rw [haliases, aliases_eq hmodel]
    exact mem_filterMap.mpr ⟨p, hp, by rw [hother]; rfl⟩
  exact ⟨(hcontains other).mpr (.inr (mem_filterMap.mpr ⟨p, hp, hother⟩)),
    hresolves.aliased _ halias⟩

/-- A bean with a lead before its field names, a raw field name, two aliases and a computed
property. -/
def parcel : BeanDecl :=
  .plain "Parcel" {}
    [.plain 2 "m_weight" .never { otherName := some "mass" },
      .plain 3 "r#type" .never { otherName := some "kind" }]
    [⟨⟨"label", 4⟩, .never⟩]

/-- The map of such a bean. -/
theorem drawnMap_of_valid_parcel :
    let scene : MapScene := ⟨.ofName "Parcel", fun _ => .plain .any, fun _ => .empty⟩
    ∃ b, resolve parcel { lead := "m_" } = .ok b ∧
      ∃ m, (b.drawnMap scene).build = .ok m ∧ m.names = ["weight", "type", "label"] ∧
        m.find? "mass" = m.find? "weight" ∧ m.find? "kind" = m.find? "type" := by
  intro scene
  have hroot : parcel.isRoot = true := rfl
  have hvalid : parcel.violations { lead := "m_" } = [] := by decide
  have hstyles : ∀ p ∈ parcel.properties, p.options.getStyle = none ∧ p.options.setStyle = none := by
    simp [parcel, BeanDecl.plain, PropertyDecl.plain]
  obtain ⟨b, hb⟩ : ∃ b, resolve parcel { lead := "m_" } = .ok b := by
    refine exists_resolve_iff.mpr fun p hp => ?_
    rw [(hstyles p hp).1, (hstyles p hp).2]
    exact ⟨⟨_, rfl⟩, _, rfl⟩
  obtain ⟨m, hm, hnames, -, -, haliases⟩ := drawnMap_of_valid hroot hvalid hb scene
  have hnames' : m.names = ["weight", "type", "label"] := hnames.trans (by decide)
  refine ⟨b, hb, m, hm, hnames', ?_, ?_⟩
  · exact (haliases _ mem_cons_self "mass" rfl).2
  · exact (haliases _ (mem_cons_of_mem _ mem_cons_self) "kind" rfl).2

end

end BeanModel

end Beans
