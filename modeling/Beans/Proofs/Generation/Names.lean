import Mathlib.Tactic.Common
import Beans.Generation.Accessors
import Beans.Generation.Builder
import Beans.Proofs.Model.Resolution
import Beans.Proofs.Syntax.FieldNames
import Beans.Proofs.Text.Cut

/-!
# Names of generated functions

A property is named by its field without the raw mark and without the lead of field names. What
remains is made of characters that can continue an identifier, but it need not be one: it is written
as it is if it is an identifier, and else with the raw mark. That makes identifiers of keywords, but
not of what begins with a digit, and not of the few words without a raw form.

## Main definitions

* `Beans.BeanDecl.FieldsNamed` — the properties are in fields with names that a field can have.
* `Beans.IsBareName` — characters of identifiers without the raw mark.
* `Beans.IsSpoiled` — a name that can be written neither as it is nor with the raw mark.
* `Beans.BeanModel.namesakes` — the functions that are named by a property.

## Main results

* `Beans.BeanDecl.fieldsNamed_of_readSource?` — what is read has such names.
* `Beans.isName_identifierText_iff` — which names become identifiers.
* `Beans.BeanModel.namesakes_named` — the functions of a property have names unless the name of the
  property is spoiled.
-/

set_option autoImplicit false

open List

namespace Beans

open Syntax Text

/-! ## Fields of properties -/

/-- The properties are in fields with names that a field can have. -/
def BeanDecl.FieldsNamed (d : BeanDecl) : Prop := ∀ p ∈ d.properties, IsFieldName p.name.name

/-- A property has the name of its field. -/
lemma PropertyDecl.name_of_ofField? {f : Field} {p : PropertyDecl}
    (h : PropertyDecl.ofField? f = .ok (some p)) : p.name.name = f.name.getD "" := by
  obtain ⟨found, -, h⟩ := bind_eq_ok_iff.mp h
  obtain ⟨options, -, rfl⟩ := Option.map_eq_some_iff.mp (Except.ok.inj h)
  rfl

/-- What is declared with named fields has its properties in such. -/
lemma BeanDecl.fieldsNamed_of_ofDeclaration {declaration : Declaration} {d : BeanDecl}
    (hnamed : declaration.FieldsNamed) (h : ofDeclaration declaration = .ok d) :
    d.FieldsNamed := by
  obtain ⟨options, -, h⟩ := bind_eq_ok_iff.mp h
  extract_lets named read forwarded derivedEntries deriveEntries faults properties fields at h
  have hfields : ∀ f ∈ named, f.Named := by
    rw [Declaration.FieldsNamed] at hnamed
    intro f hf
    dsimp only [named] at hf
    split at hf
    · rename_i hdata
      rw [hdata] at hnamed
      exact hnamed f hf
    · cases hf
  split at h
  · cases h
  obtain ⟨derived, -, h⟩ := bind_eq_ok_iff.mp h
  obtain ⟨derives, -, h⟩ := bind_eq_ok_iff.mp h
  obtain rfl := Except.ok.inj h
  intro p hp
  obtain ⟨⟨f, result⟩, hresult, hread⟩ := mem_filterMap.mp hp
  obtain ⟨field, hfield, heq⟩ := mem_map.mp hresult
  cases heq
  dsimp only at hread
  split at hread
  · rename_i hproperty
    obtain rfl := Option.some.inj hread
    obtain ⟨name, hname, hfieldName⟩ := hfields f hfield
    rw [PropertyDecl.name_of_ofField? hproperty, hname]
    exact hfieldName
  · cases hread

/-- **The properties of a bean that is read are in fields with names that a field can have.** -/
theorem BeanDecl.fieldsNamed_of_readSource? {text : String} {file : SourceFile}
    {declaration : Declaration} {d : BeanDecl} (hfile : readSource? text = some file)
    (hdeclaration : .declaration declaration ∈ file) (h : ofDeclaration declaration = .ok d) :
    d.FieldsNamed :=
  fieldsNamed_of_ofDeclaration
    (Syntax.fieldsNamed_of_readSource? hfile _ hdeclaration declaration rfl) h

/-- The same of a declaration on its own. -/
theorem BeanDecl.fieldsNamed_of_readDeclaration? {text : String} {declaration : Declaration}
    {d : BeanDecl} (hread : readDeclaration? text = some declaration)
    (h : ofDeclaration declaration = .ok d) : d.FieldsNamed :=
  fieldsNamed_of_ofDeclaration (Syntax.fieldsNamed_of_readDeclaration? hread) h

/-! ## Names of properties -/

lemma afterStart?_eq_some_iff {start s rest : String} :
    afterStart? start s = some rest ↔ s = start ++ rest := by
  rw [afterStart?, Option.map_eq_some_iff]
  simp only [Text.stripStart?_eq_some_iff]
  constructor
  · rintro ⟨cs, hcs, rfl⟩
    rw [← String.toList_inj, hcs, String.toList_append, String.toList_ofList]
  · rintro rfl
    exact ⟨rest.toList, String.toList_append, String.ofList_toList⟩

/-- The characters of an identifier without the raw mark, but perhaps not at its start. -/
def IsBareName (name : String) : Prop :=
  ∃ c rest, name.toList = c :: rest ∧ isIdentifierChar c = true ∧
    ∀ d ∈ rest, isIdentifierContinue d = true

lemma isBareName_of_isWord {name : String} (h : IsWord name.toList) : IsBareName name := by
  obtain ⟨c, rest, hname, hstart, hrest⟩ := h
  exact ⟨c, rest, hname, isIdentifierChar_of_start hstart, hrest⟩

/-- A bare name has no raw mark. -/
lemma IsBareName.withoutRawMark_eq {name : String} (h : IsBareName name) :
    withoutRawMark name = name := by
  obtain ⟨c, rest, hname, -, hrest⟩ := h
  rw [withoutRawMark]
  cases hafter : afterStart? "r#" name with
  | none => rfl
  | some word =>
    rw [afterStart?_eq_some_iff.mp hafter, String.toList_append] at hname
    obtain ⟨-, rfl⟩ := cons_eq_cons.mp hname
    have hmark := isIdentifierChar_of_continue (hrest '#' mem_cons_self)
    exact absurd rfl (ne_of_mem_markChars hmark (by decide))

lemma withoutRawMark_raw (word : String) : withoutRawMark ("r#" ++ word) = word := by
  rw [withoutRawMark, afterStart?_eq_some_iff.mpr rfl]
  rfl

/-- Without the raw mark the name of a field is a word. It is one with a raw form, or the field is the
low line. -/
lemma isWord_withoutRawMark {field : String} (h : IsFieldName field) :
    IsWord (withoutRawMark field).toList ∧
      (withoutRawMark field ∈ neverRaw ↔ field = "_") := by
  obtain ⟨hspelling, hkeyword⟩ := h
  rcases hspelling with hword | ⟨word, rfl, hword, hraw⟩
  · rw [(isBareName_of_isWord hword).withoutRawMark_eq]
    refine ⟨hword, fun hmem => hkeyword.resolve_left fun hnot => hnot ?_, ?_⟩
    · have hkeywords : ∀ w ∈ neverRaw, w ∈ keywords := by decide
      exact hkeywords field hmem
    · rintro rfl
      decide
  · rw [withoutRawMark_raw]
    refine ⟨hword, fun hmem => absurd hmem hraw, fun heq => ?_⟩
    have hlist := congrArg String.toList heq
    rw [String.toList_append] at hlist
    cases hlist

/-- The name of a property is a bare name. -/
lemma isBareName_propertyName {field : String} (h : IsFieldName field) (lead : String) :
    IsBareName (propertyName field lead) := by
  obtain ⟨hword, -⟩ := isWord_withoutRawMark h
  have hbare := isBareName_of_isWord hword
  unfold propertyName
  extract_lets name
  split
  · rename_i rest hafter
    split
    · exact hbare
    · rename_i hempty
      rw [Bool.or_eq_true, not_or, String.isEmpty_iff, String.isEmpty_iff] at hempty
      have hcut : withoutRawMark field = lead ++ rest := afterStart?_eq_some_iff.mp hafter
      obtain ⟨c, tail, hname, -, htail⟩ := hword
      rw [hcut, String.toList_append] at hname
      -- the lead takes the first character, and all others can continue an identifier
      obtain ⟨l, ls, hlead⟩ := exists_cons_of_ne_nil (mt String.toList_eq_nil_iff.mp hempty.1)
      obtain ⟨d, ds, hrest⟩ := exists_cons_of_ne_nil (mt String.toList_eq_nil_iff.mp hempty.2)
      rw [hlead, hrest, cons_append, cons_eq_cons] at hname
      obtain ⟨-, rfl⟩ := hname
      obtain ⟨-, hrestChars⟩ := forall_mem_append.mp htail
      obtain ⟨hd, hds⟩ := forall_mem_cons.mp hrestChars
      exact ⟨d, ds, hrest, isIdentifierChar_of_continue hd, hds⟩
  · exact hbare

/-- Without a lead the name of a property is that of its field without the raw mark. -/
lemma propertyName_without_lead (field : String) :
    propertyName field "" = withoutRawMark field := by
  unfold propertyName
  extract_lets name
  split
  · exact if_pos rfl
  · rfl

/-! ## Names as they are written -/

/-- A name that can be written neither as it is nor with the raw mark: one of the words without a raw
form, or one with a start that no identifier has. -/
def IsSpoiled (name : String) : Prop :=
  name ∈ neverRaw ∨ ∃ c rest, name.toList = c :: rest ∧ isIdentifierStart c = false

/-- A bare name that is not spoiled is a word. -/
lemma IsBareName.isWord {name : String} (h : IsBareName name) (hsound : ¬ IsSpoiled name) :
    IsWord name.toList := by
  obtain ⟨c, rest, hname, -, hrest⟩ := h
  refine ⟨c, rest, hname, ?_, hrest⟩
  exact eq_true_of_ne_false fun hstart => hsound (.inr ⟨c, rest, hname, hstart⟩)

/-- A name that is not spoiled is written as an identifier. -/
lemma isName_identifierText {name : String} (h : IsBareName name) (hsound : ¬ IsSpoiled name) :
    IsName (identifierText name) := by
  have hword : IsWord name.toList := h.isWord hsound
  rw [identifierText]
  split
  case isTrue hidentifier =>
    exact isName_of_isSpelling (.inl hword) ((isIdentifier_of_isSpelling (.inl hword)).mp hidentifier)
  case isFalse =>
    have hraw : name ∉ neverRaw := fun hmem => hsound (.inl hmem)
    refine isName_of_isSpelling (.inr ⟨name, rfl, hword, hraw⟩) fun hkeyword => ?_
    -- no keyword has the raw mark
    have hkeywords : ∀ w ∈ keywords, '#' ∉ w.toList := by decide +kernel
    refine hkeywords _ hkeyword ?_
    rw [String.toList_append]
    exact mem_append_left _ (by decide)

/-- What is written for a spoiled name is not read as anything. -/
lemma readToks_identifierText {name : String} (h : IsBareName name) (hspoiled : IsSpoiled name) :
    readToks (identifierText name) = none := by
  have hraw : identifierText name = "r#" ++ name ∧ readToks ("r#" ++ name) = none := by
    rcases hspoiled with hmem | ⟨c, rest, hname, hstart⟩
    · have hkeywords : ∀ w ∈ neverRaw, isIdentifier w = false := by decide +kernel
      rw [identifierText, hkeywords name hmem]
      exact ⟨rfl, readToks_neverRaw name hmem⟩
    · obtain ⟨d, tail, hname', hd, -⟩ := h
      obtain ⟨rfl, rfl⟩ := cons_eq_cons.mp (hname.symm.trans hname')
      rw [identifierText, isIdentifier_eq_false hname hd hstart]
      exact ⟨rfl, readToks_raw_eq_none hname hd hstart⟩
  rw [hraw.1, hraw.2]

/-- **A bare name is written as an identifier unless it is spoiled.** -/
theorem isName_identifierText_iff {name : String} (h : IsBareName name) :
    IsName (identifierText name) ↔ ¬ IsSpoiled name := by
  refine ⟨fun hname hspoiled => ?_, isName_identifierText h⟩
  obtain ⟨⟨lines, htoks⟩, -⟩ := hname
  rw [readToks_identifierText h hspoiled] at htoks
  cases htoks

/-- Without a lead only the low line is spoiled. -/
lemma isSpoiled_without_lead {field : String} (h : IsFieldName field) :
    IsSpoiled (propertyName field "") ↔ field = "_" := by
  obtain ⟨⟨c, rest, hname, hstart, -⟩, hraw⟩ := isWord_withoutRawMark h
  rw [propertyName_without_lead, ← hraw]
  refine ⟨fun hspoiled => hspoiled.resolve_right ?_, .inl⟩
  rintro ⟨d, tail, hname', hnot⟩
  obtain ⟨rfl, rfl⟩ := cons_eq_cons.mp (hname.symm.trans hname')
  rw [hstart] at hnot
  cases hnot

/-! ## Functions of a property -/

/-- A getter that is generated has a method. -/
lemma Getter.isSome_method? (g : Getter) (ty field : String) :
    (g.method? ty field).isSome = g.hasMethod := by
  cases g <;> rfl

/-- The getter that suits a type is generated. -/
lemma Getter.hasMethod_forType {ty : Ty} {profile : Profile} :
    (forType ty profile).hasMethod = true := by
  rw [forType]
  repeat' split
  all_goals rfl

/-- A generated getter is a function with the name of the property. -/
lemma PropertyModel.exists_getterFunction {p : PropertyModel} (h : p.getter.hasMethod = true) :
    ∃ f, p.getterFunction = [f] ∧ f.name = identifierText p.name := by
  rw [← Getter.isSome_method? p.getter p.ty p.field] at h
  obtain ⟨method, hmethod⟩ := Option.isSome_iff_exists.mp h
  rw [getterFunction, hmethod]
  exact ⟨_, rfl, rfl⟩

namespace BeanModel

/-- The functions that are named by a property: its getter if it has one, the fluent function of the
builder if there is one, and the function of the meta-bean. -/
def namesakes (b : BeanModel) (p : PropertyModel) : List Function :=
  p.getterFunction ++ p.builder.toList.map (fluentFunction p) ++ [b.metaAccessor p.name p.ty]

/-- They all have the name of the property as it is written. -/
lemma name_of_mem_namesakes {b : BeanModel} {p : PropertyModel} {f : Function}
    (h : f ∈ b.namesakes p) : f.name = identifierText p.name := by
  simp only [namesakes, PropertyModel.getterFunction, mem_append, mem_map, mem_singleton] at h
  rcases h with (⟨_, -, rfl⟩ | ⟨_, -, rfl⟩) | rfl
  all_goals rfl

/-- **The functions of a property have names unless the name of the property is spoiled.** Whatever
the prefix of field names is, each function that is named by a property of a declaration has a name
that is read as one identifier, raw or not, exactly if the name of the property is not spoiled; and if
it is, what is written in place of a name is not read as anything. Without a prefix that is so for the
low line only. -/
theorem namesakes_named {d : BeanDecl} {s : Settings} {b : BeanModel} (hnamed : d.FieldsNamed)
    (hresolved : resolve d s = .ok b) :
    Forall₂ (fun p m =>
        (∀ f ∈ b.namesakes m, IsName f.name ↔ ¬ IsSpoiled m.name) ∧
        (IsSpoiled m.name → ∀ f ∈ b.namesakes m, readToks f.name = none) ∧
        (s.lead = "" → (IsSpoiled m.name ↔ p.name.name = "_")))
      d.properties b.properties := by
  have hmodel := resolves_of_resolve hresolved
  refine Order.forall₂_imp_of_mem hmodel.properties fun p hp m _ hm => ?_
  have hbare : IsBareName m.name := hm.name ▸ isBareName_propertyName (hnamed p hp) s.lead
  refine ⟨fun f hf => ?_, fun hspoiled f hf => ?_, fun hlead => ?_⟩
  · rw [name_of_mem_namesakes hf]
    exact isName_identifierText_iff hbare
  · rw [name_of_mem_namesakes hf]
    exact readToks_identifierText hbare hspoiled
  · rw [hm.name, PropertyDecl.propertyName, hlead]
    exact isSpoiled_without_lead (hnamed p hp)

/-- A bean with one property. -/
def single (field : String) : BeanDecl := .plain "A" {} [.plain 2 field .never {}] []

lemma fieldsNamed_single {field : String} (h : IsFieldName field) : (single field).FieldsNamed :=
  forall_mem_singleton.mpr h

/-- There is a model of the bean, with one property that has a getter. -/
lemma exists_resolve_single (field : String) (s : Settings) :
    ∃ b m, resolve (single field) s = .ok b ∧ b.properties = [m] ∧
      m.name = propertyName field s.lead ∧ m.getter.hasMethod = true := by
  obtain ⟨b, hb⟩ : ∃ b, resolve (single field) s = .ok b :=
    exists_resolve_iff.mpr (forall_mem_singleton.mpr ⟨⟨_, rfl⟩, _, rfl⟩)
  obtain ⟨m, rest, hm, hrest, hproperties⟩ :=
    forall₂_cons_left_iff.mp (resolves_of_resolve hb).properties
  obtain rfl := forall₂_nil_left_iff.mp hrest
  refine ⟨b, m, hb, hproperties, hm.name, ?_⟩
  have hgetter : Getter.forType .never s.profile = m.getter := Except.ok.inj hm.getter
  rw [← hgetter]
  exact Getter.hasMethod_forType

/-- A keyword behind the prefix is written with the raw mark, so that it is an identifier. -/
theorem namesakes_named_keyword :
    ∃ b m, resolve (single "m_type") { lead := "m_" } = .ok b ∧ b.properties = [m] ∧
      ∀ f ∈ b.namesakes m, IsName f.name := by
  obtain ⟨b, m, hb, hproperties, hname, -⟩ := exists_resolve_single "m_type" { lead := "m_" }
  have hspelling : IsSpelling "m_type" :=
    .inl ⟨'m', "_type".toList, rfl, by decide, all_eq_true.mp (by decide)⟩
  have hnamed := fieldsNamed_single ⟨hspelling, .inl (by decide)⟩
  obtain ⟨n, rest, hn, -, hmodels⟩ := forall₂_cons_left_iff.mp (namesakes_named hnamed hb)
  obtain ⟨rfl, rfl⟩ := cons_eq_cons.mp (hproperties.symm.trans hmodels)
  have hsound : ¬ IsSpoiled m.name := by
    rw [hname]
    rintro (hmem | ⟨c, tail, htype, hstart⟩)
    · exact absurd hmem (by decide)
    · cases htype
      exact absurd hstart (by decide)
  exact ⟨b, m, hb, hproperties, fun f hf => (hn.1 f hf).mpr hsound⟩

/-- A digit behind the prefix is not one: a declaration without violations can have a getter whose
name is none. -/
theorem exists_getter_not_named :
    ∃ d s b, d.FieldsNamed ∧ d.violations s = [] ∧ resolve d s = .ok b ∧
      ∃ m ∈ b.properties, ∃ f ∈ m.getterFunction, f.name = "r#1" ∧ ¬ IsName f.name := by
  obtain ⟨b, m, hb, hproperties, hname, hgetter⟩ := exists_resolve_single "m_1" { lead := "m_" }
  have hspelling : IsSpelling "m_1" :=
    .inl ⟨'m', ['_', '1'], rfl, by decide, all_eq_true.mp (by decide)⟩
  obtain ⟨f, hf, hfname⟩ := PropertyModel.exists_getterFunction hgetter
  have hraw : f.name = "r#1" := by
    rw [hfname, hname]
    decide +kernel
  refine ⟨single "m_1", { lead := "m_" }, b, fieldsNamed_single ⟨hspelling, .inl (by decide)⟩,
    by decide, hb, m, hproperties ▸ mem_cons_self, f, hf ▸ mem_cons_self, hraw, ?_⟩
  rintro ⟨⟨lines, htoks⟩, -⟩
  have hnone : readToks "r#1" = none := by decide +kernel
  rw [hraw, hnone] at htoks
  cases htoks

end BeanModel

end Beans
