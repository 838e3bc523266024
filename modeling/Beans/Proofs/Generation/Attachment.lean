import Mathlib.Data.List.Forall2
import Mathlib.Tactic.Common
import Beans.Generation.MetaBean
import Beans.Proofs.Model.Resolution

/-!
# Accessors of generated meta-properties

The style of a generated meta-property promises what can be done with it, and the getter and the
setter that are attached to it do it. They are chosen from the same two styles of the declaration,
but apart from each other. Here it is said when they agree.

## Main definitions

* `Beans.PropertyDecl.isShut` — both accessors of a property are turned off.

## Main results

* `Beans.Getter.isReadable_of_resolve`, `Beans.Setter.isWritable_of_resolve` — what a style of the
  declaration makes of an accessor.
* `Beans.BeanModel.style_attachment` — the style of a mutable bean's property is that of the access
  that it gives, if it gives any.
* `Beans.BeanModel.attachments_agree` — style and accessors agree, unless a property of a mutable bean
  is shut.
-/

set_option autoImplicit false

open List

namespace Beans

/-! ## What a style makes of an accessor -/

/-- The text of a style turns the accessor off. -/
def turnsOff (style : String) : Bool := (Text.trim style).isEmpty

/-- Both accessors of a property are turned off. -/
def PropertyDecl.isShut (p : PropertyDecl) : Bool :=
  p.options.getStyle.any turnsOff && p.options.setStyle.any turnsOff

section

variable {style : Option String} {ty : Syntax.Ty} {shown : Bool} {profile : Profile}

/-- The getter that suits a type reads the property. -/
lemma Getter.isReadable_forType : (forType ty profile).isReadable = true := by
  rw [forType]
  repeat' split
  all_goals rfl

/-- The setter that suits a type writes the property. -/
lemma Setter.isWritable_forType : (forType ty shown).isWritable = true := by
  rw [forType]
  split <;> rfl

/-- A style turns an accessor off if no letter is left of it. -/
lemma turnsOff_iff {text : String} :
    turnsOff text = true ↔ Text.lowerCase (Text.trim text) = "" := by
  rw [Text.lowerCase_eq_empty_iff]
  exact String.isEmpty_iff

/-- **A property can be read unless the style of its getter is blank.** -/
theorem Getter.isReadable_of_resolve {g : Getter} (h : resolve style ty shown profile = .ok g) :
    g.isReadable = !style.any turnsOff := by
  have hshown (g : Getter) (hg : g.isReadable = true) :
      (if shown then Getter.convert else g).isReadable = true := by
    split
    · rfl
    · exact hg
  cases style with
  | none =>
    obtain rfl := Except.ok.inj h
    exact hshown _ isReadable_forType
  | some text =>
    rw [Option.any_some, Bool.eq_iff_iff, Bool.not_eq_true', ← Bool.not_eq_true, turnsOff_iff]
    simp only [resolve, Option.map_some] at h
    generalize Text.lowerCase (Text.trim text) = word at h ⊢
    split at h
    case h_3 | h_8 => contradiction
    all_goals
      obtain rfl := Option.some.inj ‹_›
      obtain rfl := Except.ok.inj h
    case h_1 => exact iff_of_false (by decide) (not_not_intro rfl)
    case h_2 => exact iff_of_true rfl (by decide)
    case h_4 => exact iff_of_true (hshown _ isReadable_forType) (by decide)
    all_goals exact iff_of_true (hshown _ rfl) (by decide)

/-- **A property can be written unless the style of its setter is blank.** -/
theorem Setter.isWritable_of_resolve {w : Setter} (h : resolve style ty shown = .ok w) :
    w.isWritable = !style.any turnsOff := by
  cases style with
  | none =>
    obtain rfl := Except.ok.inj h
    exact isWritable_forType
  | some text =>
    rw [Option.any_some, Bool.eq_iff_iff, Bool.not_eq_true', ← Bool.not_eq_true, turnsOff_iff]
    simp only [resolve, Option.map_some] at h
    split at h
    case isTrue hpattern =>
      split at h
      · obtain rfl := Except.ok.inj h
        -- a pattern is not blank, for it holds the place of the value
        refine iff_of_true rfl fun hblank => ?_
        rw [Text.lowerCase_eq_empty_iff.mp hblank] at hpattern
        exact absurd hpattern (by decide)
      · cases h
    case isFalse =>
      have hcollection (h : (if ty.isExtendable && !shown then Except.ok Setter.clearExtend
          else .error Fault.setterNeedsCollection) = .ok w) : w.isWritable = true := by
        split at h
        · obtain rfl := Except.ok.inj h
          rfl
        · cases h
      generalize Text.lowerCase (Text.trim text) = word at h ⊢
      split at h
      case h_1 =>
        obtain rfl := Except.ok.inj h
        exact iff_of_false (by decide) (not_not_intro rfl)
      case h_2 =>
        obtain rfl := Except.ok.inj h
        exact iff_of_true isWritable_forType (by decide)
      case h_4 | h_5 => exact iff_of_true (hcollection h) (by decide)
      case h_8 => cases h
      all_goals
        obtain rfl := Except.ok.inj h
        exact iff_of_true rfl (by decide)

/-- A meta-property has a getter if the property can be read. -/
lemma Getter.isSome_metaRead? (g : Getter) (ty field method : String) :
    (g.metaRead? ty field method).isSome = g.isReadable := by
  cases g <;> rfl

/-- A meta-property has a setter if the property can be written. -/
lemma Setter.isSome_metaWrite? {α : Type} [Coe String α] (w : Setter) (field method : String)
    (check : Option α) (fallible shown : Bool) :
    (w.metaWrite? field method check fallible shown).isSome = w.isWritable := by
  cases w with
  | readOnly | manual | field => rfl
  | assign | clearExtend | pattern => cases fallible <;> rfl

end

namespace PropertyModel

variable {immutable : Bool} {s : Settings} {p : PropertyDecl} {m : PropertyModel}

/-- A resolved property can be read unless its getter is turned off. -/
lemma Resolves.isReadable_getter (h : m.Resolves immutable s p) :
    m.getter.isReadable = !p.options.getStyle.any turnsOff :=
  Getter.isReadable_of_resolve h.getter

/-- A resolved property can be written in mutable beans unless its setter is turned off. -/
lemma Resolves.isWritable_setter (h : m.Resolves immutable s p) :
    m.setter.isWritable = (!immutable && !p.options.setStyle.any turnsOff) := by
  have hsetter := h.setter
  cases immutable with
  | true =>
    rw [← Except.ok.inj hsetter]
    rfl
  | false => exact Setter.isWritable_of_resolve hsetter

end PropertyModel

/-! ## Attachments -/

/-- A declaration without violations turns no getter of an immutable bean off. -/
lemma BeanDecl.not_turnsOff_of_violations_eq_nil {d : BeanDecl} {s : Settings}
    (h : d.violations s = []) (himmutable : d.isImmutable = true) {p : PropertyDecl}
    (hp : p ∈ d.properties) : p.options.getStyle.any turnsOff = false := by
  have hfrozen : frozenFaults d s = [] := by
    simp only [violations, append_eq_nil_iff] at h
    tauto
  simp only [frozenFaults, himmutable, Bool.not_true, Bool.false_eq_true, if_false,
    append_eq_nil_iff, flatMap_eq_nil_iff] at hfrozen
  have hproperty := hfrozen.1 p hp
  simp only [frozenPropertyFaults, append_eq_nil_iff] at hproperty
  have hgetter := hproperty.1.2
  rw [faultIf] at hgetter
  split at hgetter
  · cases hgetter
  · exact eq_false_of_ne_true ‹_›

/-- With the style of its access an attachment agrees with it, unless there is no access. -/
lemma Attachment.agrees_of_access {a : Attachment} {readable writable : Bool}
    (hgetter : a.getter.isSome = readable) (hsetter : a.setter.isSome = writable)
    (hstyle : a.style = ((Access.of? readable writable).map Access.style).getD .readOnly) :
    a.setter.isSome = a.style.isWritable ∧
      (a.getter.isSome = a.style.isReadable ↔ (readable || writable) = true) ∧
      (readable = false → writable = false → a = ⟨.readOnly, none, none⟩) := by
  obtain ⟨style, getter, setter⟩ := a
  obtain rfl : style = _ := hstyle
  dsimp only at hgetter hsetter
  rw [hgetter, hsetter]
  cases readable <;> cases writable <;>
    simp_all [Access.of?, Access.style, PropertyStyle.isReadable, PropertyStyle.isWritable]

namespace BeanModel

variable {b : BeanModel} {m : PropertyModel}

/-- A meta-property has the accessors of its property. -/
lemma accessors_attachment (b : BeanModel) (m : PropertyModel) :
    (b.attachment m).getter.isSome = m.getter.isReadable ∧
      (b.attachment m).setter.isSome = m.setter.isWritable :=
  ⟨Getter.isSome_metaRead? .., Setter.isSome_metaWrite? ..⟩

/-- The style of a mutable bean's property is that of the access that it gives. A property that
gives none passes for one that can be read. -/
theorem style_attachment (hmutable : b.immutable = false) :
    (b.attachment m).style =
      ((Access.of? m.getter.isReadable m.setter.isWritable).map Access.style).getD .readOnly := by
  simp only [attachment, hmutable, Bool.false_eq_true, if_false]
  cases m.getter.isReadable <;> cases m.setter.isWritable <;> rfl

variable {d : BeanDecl} {s : Settings}

/-- **Style and accessors agree, unless a property of a mutable bean is shut.** For a valid
declaration each of its stored meta-properties has a setter exactly if its style promises one, and a
getter exactly if its style promises one, but for a property of a mutable bean both of whose accessors
are turned off. That one has neither, and its style promises a getter. -/
theorem attachments_agree (hvalid : d.violations s = []) (hresolved : resolve d s = .ok b) :
    Forall₂ (fun p m =>
        let a := b.attachment m
        a.setter.isSome = a.style.isWritable ∧
        (a.getter.isSome = a.style.isReadable ↔ (d.isImmutable || !p.isShut) = true) ∧
        (d.isImmutable = false → p.isShut = true → a = ⟨.readOnly, none, none⟩))
      d.properties b.properties := by
  have hmodel := resolves_of_resolve hresolved
  refine Order.forall₂_imp_of_mem hmodel.properties fun p hp m _ hm => ?_
  obtain ⟨hgetter, hsetter⟩ := accessors_attachment b m
  have hreadable := hm.isReadable_getter
  have hwritable := hm.isWritable_setter
  cases himmutable : d.isImmutable with
  | true =>
    have hstyle : (b.attachment m).style = .immutable := by
      simp [attachment, hmodel.immutable, himmutable]
    rw [BeanDecl.not_turnsOff_of_violations_eq_nil hvalid himmutable hp] at hreadable
    rw [himmutable] at hwritable
    simp [hgetter, hsetter, hstyle, hreadable, hwritable, PropertyStyle.isReadable,
      PropertyStyle.isWritable]
  | false =>
    have hstyle := style_attachment (m := m) (hmodel.immutable.trans himmutable)
    rw [himmutable, Bool.not_false, Bool.true_and] at hwritable
    obtain ⟨hwrites, hreads, hshut⟩ :=
      Attachment.agrees_of_access hgetter hsetter hstyle
    refine ⟨hwrites, hreads.trans ?_, fun _ h => ?_⟩
    · rw [hreadable, hwritable, PropertyDecl.isShut, Bool.false_or, Bool.not_and]
    · rw [PropertyDecl.isShut, Bool.and_eq_true] at h
      exact hshut (by rw [hreadable, h.1]; rfl) (by rw [hwritable, h.2]; rfl)

/-- A bean with a property that is shut. -/
def safe : BeanDecl :=
  .plain "Safe" {}
    [.plain 2 "label" .never {},
      .plain 3 "code" .never { getStyle := some "", setStyle := some "" }] []

/-- There is a model of the bean. -/
lemma exists_resolve_safe : ∃ b, resolve safe {} = .ok b := by
  refine exists_resolve_iff.mpr fun p hp => ?_
  simp only [safe, BeanDecl.plain, mem_cons, not_mem_nil, or_false] at hp
  rcases hp with rfl | rfl
  · exact ⟨⟨_, rfl⟩, _, rfl⟩
  · exact ⟨⟨.unreadable, by rfl⟩, .readOnly, by rfl⟩

/-- The accessors of the bean. -/
theorem attachments_agree_safe :
    ∃ b label code, resolve safe {} = .ok b ∧ b.properties = [label, code] ∧
      (b.attachment label).getter.isSome = (b.attachment label).style.isReadable ∧
      b.attachment code = ⟨.readOnly, none, none⟩ := by
  obtain ⟨b, hb⟩ := exists_resolve_safe
  have hvalid : safe.violations {} = [] := by decide
  obtain ⟨label, rest, hlabel, hrest, hproperties⟩ :=
    forall₂_cons_left_iff.mp (attachments_agree hvalid hb)
  obtain ⟨code, rest, hcode, hnil, rfl⟩ := forall₂_cons_left_iff.mp hrest
  obtain rfl := forall₂_nil_left_iff.mp hnil
  exact ⟨b, label, code, hb, hproperties, hlabel.2.1.mpr rfl, hcode.2.2 rfl rfl⟩

/-- A declaration without violations can have a property with a style that promises a getter but
without one. -/
theorem exists_readable_without_getter :
    ∃ d s b, d.violations s = [] ∧ resolve d s = .ok b ∧ ∃ m ∈ b.properties,
      (b.attachment m).style.isReadable = true ∧ (b.attachment m).getter = none := by
  obtain ⟨b, hb⟩ := exists_resolve_safe
  have hmodel := resolves_of_resolve hb
  obtain ⟨m, hm, hresolves⟩ := Order.exists_of_forall₂ hmodel.properties
    (show .plain 3 "code" .never { getStyle := some "", setStyle := some "" } ∈ safe.properties from
      mem_cons_of_mem _ mem_cons_self)
  have hgetter : m.getter.isReadable = false := hresolves.isReadable_getter.trans (by decide)
  have hsetter : m.setter.isWritable = false := hresolves.isWritable_setter.trans (by decide)
  have hstyle := style_attachment (m := m) hmodel.immutable
  rw [hgetter, hsetter] at hstyle
  refine ⟨safe, {}, b, by decide, hb, m, hm, ?_, ?_⟩
  · rw [hstyle]
    rfl
  · rw [← Option.not_isSome_iff_eq_none, (accessors_attachment b m).1, hgetter]
    exact Bool.false_ne_true

end BeanModel

end Beans
