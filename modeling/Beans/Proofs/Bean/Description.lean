import Mathlib.Tactic.Common
import Beans.Proofs.Bean.DynamicCopy
import Beans.Proofs.Bean.Edited

/-!
# The description of a copy

A bean with any properties is copied by giving the copies of its values to a builder, which starts with
an empty bean. So the copy lists the same names in the same order, whatever changes the bean has been
through; and as each property is described by its name and its declared type, a property without such
a type is described as before. Builders know nothing of declared types. The only way for the copy to
fail is that one of the values cannot be copied, as when a record in it does not obey its own rules.

## Main results

* `Beans.Cloner.cloneBean_flexible` — the copy of a bean that keeps the order.
* `Beans.Cloner.clone_description` — when there is a copy after any changes, and how it is described.
-/

set_option autoImplicit false

open List

namespace Beans

namespace Cloner

variable {c : Cloner} {types : List (String × ResolvedType)} {fields : List (String × Value)}

/-- **The copy of a bean that keeps the order** is made of the copies of its fields. -/
theorem cloneBean_flexible (hnames : (fields.map Prod.fst).Nodup) :
    c.cloneBean ⟨.flexible types, fields⟩ =
      (fields.mapM fun f => (c.cloneValue f.2).map (Prod.mk f.1)).map (BeanOf.mk (.flexible [])) := by
  rw [cloneBean, cloneFields_eq_map]
  exact rebuild_flexible_eq types hnames

/-- If the copy is there, it has for each field one of the same name with the copy of the value. -/
lemma of_cloneBean_flexible (hnames : (fields.map Prod.fst).Nodup) {copy : Bean}
    (h : c.cloneBean ⟨.flexible types, fields⟩ = .ok copy) :
    ∃ fs, copy = ⟨.flexible [], fs⟩ ∧
      Forall₂ (fun f g => f.1 = g.1 ∧ c.cloneValue f.2 = .ok g.2) fields fs := by
  rw [cloneBean_flexible hnames] at h
  obtain ⟨fs, hfs, rfl⟩ := map_eq_ok_iff.mp h
  refine ⟨fs, rfl, (mapM_eq_ok_iff.mp hfs).imp fun f g hfg => ?_⟩
  obtain ⟨v, hv, rfl⟩ := map_eq_ok_iff.mp hfg
  exact ⟨rfl, hv⟩

/-- If there is none, one of the values cannot be copied. -/
lemma of_cloneBean_flexible_error (hnames : (fields.map Prod.fst).Nodup) {e : BeanError}
    (h : c.cloneBean ⟨.flexible types, fields⟩ = .error e) :
    ∃ f ∈ fields, c.cloneValue f.2 = .error e := by
  rw [cloneBean_flexible hnames, map_eq_error_iff] at h
  obtain ⟨f, hf, hcopy⟩ := mapM_eq_error h
  exact ⟨f, hf, map_eq_error_iff.mp hcopy⟩

/-- There is a copy if all values can be copied. -/
lemma exists_cloneBean_flexible_iff (hnames : (fields.map Prod.fst).Nodup) :
    (∃ copy, c.cloneBean ⟨.flexible types, fields⟩ = .ok copy) ↔
      ∀ f ∈ fields, ∃ w, c.cloneValue f.2 = .ok w := by
  constructor
  · rintro ⟨copy, hcopy⟩ f hf
    obtain ⟨fs, -, hall⟩ := of_cloneBean_flexible hnames hcopy
    obtain ⟨g, -, -, hg⟩ := Order.exists_of_forall₂ hall hf
    exact ⟨g.2, hg⟩
  · intro hall
    cases hclone : c.cloneBean ⟨.flexible types, fields⟩ with
    | ok copy => exact ⟨copy, rfl⟩
    | error e =>
      obtain ⟨f, hf, herror⟩ := of_cloneBean_flexible_error hnames hclone
      obtain ⟨w, hw⟩ := hall f hf
      rw [herror] at hw
      cases hw

/-- Beans with the same names list and describe their properties alike, but for declared types. -/
lemma metaProperty_of_names (types : List (String × ResolvedType)) {fs : List (String × Value)}
    (hnames : (fields.map Prod.fst).Nodup) (hfs : fs.map Prod.fst = fields.map Prod.fst) :
    Bean.propertyNames ⟨.flexible [], fs⟩ = Bean.propertyNames ⟨.flexible types, fields⟩ ∧
      ∀ n, types.lookup n = none →
        Bean.metaProperty ⟨.flexible [], fs⟩ n = Bean.metaProperty ⟨.flexible types, fields⟩ n := by
  have hnames' : (fs.map Prod.fst).Nodup := hfs ▸ hnames
  constructor
  · have hlisted {types : List (String × ResolvedType)} {fields : List (String × Value)}
        (hnames : (fields.map Prod.fst).Nodup) :
        Bean.propertyNames ⟨.flexible types, fields⟩ = fields.map Prod.fst := by
      have hlawful : (BeanOf.mk (.flexible types) fields).kind.Lawful (fields.map Prod.fst) := hnames
      exact (names_table hlawful).trans (names_slots _)
    rw [hlisted hnames, hlisted hnames', hfs]
  · intro n hn
    rw [metaProperty_flexible _ _ hnames, metaProperty_flexible _ _ hnames', hfs, hn]
    rfl

/-- **The description of a copy.** Let a bean have been through any changes. It can be copied exactly
if all values that it holds can be; otherwise the copy fails as that of one of them does. Values
without records and objects can. The copy is of the same type and lists the same names in the same
order, each with the copy of the value. A property of which no type was declared since it came is
described as before. -/
theorem clone_description (c : Cloner) (edits : List Edit) :
    let b := Bean.edited edits
    ((∃ copy, c.cloneBean b = .ok copy) ↔ ∀ f ∈ b.fields, ∃ w, c.cloneValue f.2 = .ok w) ∧
    (∀ e, c.cloneBean b = .error e → ∃ f ∈ b.fields, c.cloneValue f.2 = .error e) ∧
    ((∀ e ∈ edits, ∀ v, e.value? = some v → v.Dynamic False) → ∃ copy, c.cloneBean b = .ok copy) ∧
    ∀ copy, c.cloneBean b = .ok copy →
      copy.type = b.type ∧ copy.propertyNames = b.propertyNames ∧
      Forall₂ (fun f g => f.1 = g.1 ∧ c.cloneValue f.2 = .ok g.2) b.fields copy.fields ∧
      ∀ n, latest (Edit.declared? n) (presence n edits) = none →
        copy.metaProperty n = b.metaProperty n := by
  intro b
  obtain ⟨types, fields, hedited, hrecalls⟩ := recalls_edited edits
  have hb : b = ⟨.flexible types, fields⟩ := hedited
  have hnames := hrecalls.nodup_names
  have hiff : (∃ copy, c.cloneBean b = .ok copy) ↔ ∀ f ∈ b.fields, ∃ w, c.cloneValue f.2 = .ok w := by
    rw [hb]
    exact exists_cloneBean_flexible_iff hnames
  refine ⟨hiff, fun e he => ?_, fun hdynamic => hiff.mpr fun f hf => ?_, fun copy hcopy => ?_⟩
  · rw [hb] at he ⊢
    exact of_cloneBean_flexible_error hnames he
  · have hholds : b.Holds (Value.Dynamic False) :=
      (Bean.kept_holds (.scalar _)).foldl_apply ⟨rfl, nofun⟩ hdynamic
    obtain ⟨w, hw⟩ := (hholds.values f hf).exists_replica
    exact ⟨w, hw.clone c False.elim⟩
  · rw [hb] at hcopy ⊢
    obtain ⟨fs, rfl, hall⟩ := of_cloneBean_flexible hnames hcopy
    have hfs : fs.map Prod.fst = fields.map Prod.fst :=
      (Order.map_eq_of_forall₂ (hall.imp fun f g hfg => hfg.1)).symm
    obtain ⟨hlisted, hdescribed⟩ := metaProperty_of_names types hnames hfs
    exact ⟨rfl, hlisted, hall, fun n hn => hdescribed n ((hrecalls.declared n).trans hn)⟩

/-- A record, a list and a property that is declared again after it was removed. -/
theorem clone_description_person :
    let c : Cloner := ⟨.grids, []⟩
    let person : Bean := ⟨.record Sample.person, [("name", .text "Ada"), ("age", .uint 36),
      ("tags", .list []), ("address", .optional none), ("nick", .optional (some (.text "A")))]⟩
    let edits : List Edit := [.define "x" .any, .put "p" (.bean person), .erase "x",
      .put "x" (.list [.int 1])]
    let b := Bean.edited edits
    ∃ copy, c.cloneBean b = .ok copy ∧ copy.propertyNames = ["p", "x"] ∧
      copy.metaProperty "x" = b.metaProperty "x" := by
  intro c person edits b
  obtain ⟨-, -, -, hdescribed⟩ := clone_description c edits
  have hcopied : (c.cloneBean b).toOption.isSome = true := by decide +kernel
  cases hcopy : c.cloneBean b with
  | error e =>
    rw [hcopy] at hcopied
    cases hcopied
  | ok copy =>
    obtain ⟨-, hnames, -, hmeta⟩ := hdescribed copy hcopy
    exact ⟨copy, rfl, hnames.trans (by decide +kernel), hmeta "x" (by decide +kernel)⟩

/-- A copy may fail, and it may lose a description: a person in the bean has no name, or a type was
declared. -/
theorem exists_clone_not_described :
    (∃ edits, ∀ tier, (⟨tier, []⟩ : Cloner).cloneBean (Bean.edited edits) =
      .error (.validation "name" "must not be blank")) ∧
    ∃ edits, ∀ tier, ∃ copy p q, (⟨tier, []⟩ : Cloner).cloneBean (Bean.edited edits) = .ok copy ∧
      (Bean.edited edits).metaProperty "nick" = .ok p ∧ copy.metaProperty "nick" = .ok q ∧
        p.generic.display = "String" ∧ q.generic.display = "Any" := by
  constructor
  · refine ⟨[.put "p" (.bean Sample.person.default)], fun tier => ?_⟩
    cases tier <;> rfl
  · let text : ResolvedType := .ofRaw (.declared "String" false [] [])
    refine ⟨[.define "nick" text], fun tier => ⟨⟨.flexible [], [("nick", .null)]⟩,
      .ofEntry flexibleType "nick" text, .ofEntry flexibleType "nick" .any, ?_, rfl, rfl, ?_, ?_⟩⟩
    · cases tier <;> rfl
    · decide +kernel
    · decide +kernel

end Cloner

end Beans
