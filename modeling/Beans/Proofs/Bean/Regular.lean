import Mathlib.Tactic.Common
import Beans.Bean.Clone
import Beans.Proofs.Bean.Fields
import Beans.Proofs.Bean.Slots
import Beans.Proofs.Value.Converted

/-!
# Regular beans

What is stored in a bean of a record type came through the conversion of its property. So each field
holds a value of the type of its property, and a property that cannot be written holds its default.
This is stated here of values with all beans inside of them, and storing a value keeps it.

The record types that can occur are restricted by conditions on their properties, which can be
checked type by type.

## Main definitions

* `Beans.RecordType.Rebuildable` — what is asked of a record type.
* `Beans.RecordType.Fits` — fields as the beans of a record type have them.
* `Beans.Value.Regular` — all beans in a value have such fields.

## Main results

* `Beans.RecordProperty.accept_eq` — what a property has stored it takes again, unless it breaks the
  rule.
* `Beans.RecordProperty.accepted` — what a property takes.
* `Beans.Value.Regular.ofValue` — conversions keep values regular.
* `Beans.set_record_eq` — writing a property of a record.
* `Beans.RecordType.Fits.putField` — storing a value of its type keeps fields as they should be.
-/

set_option autoImplicit false

open List

namespace Beans

/-! ## Record types -/

/-- The fields that the value of a property is computed from. -/
def RecordProperty.inputs (p : RecordProperty) : List String :=
  match p.source with
  | .computed inputs _ => inputs
  | .stored | .absent => []

namespace ConstructorStep

/-- The property whose value a step stores. -/
def taken? : ConstructorStep → Option String
  | take name => some name
  | takeOrDefault name => some name
  | check _ => none

/-- Whether each check looks at a value that is there already. -/
def checksTaken (taken : List String) : List ConstructorStep → Bool
  | [] => true
  | take name :: steps => checksTaken (name :: taken) steps
  | takeOrDefault name :: steps => checksTaken (name :: taken) steps
  | check name :: steps => taken.contains name && checksTaken taken steps

end ConstructorStep

/-- The properties fit the way in which beans are built: what a default bean is changed from has
defaults, and what is built at once is built from the values of all properties. -/
def Building.Fits (t : RecordType) : Building → Prop
  | .impossible => ∀ p ∈ t.stored, p.type.default?.isSome = true
  | .editing => ∀ p ∈ t.stored, p.type.default?.isSome = true ∧
      (Cloner.isCopied p.description = true → p.description.settable = true)
  | .collecting => ∀ p ∈ t.stored, Cloner.isCopied p.description = true ∧ p.trimmed = false
  | .buffering steps =>
    (∀ p ∈ t.stored, Cloner.isCopied p.description = true ∧ p.trimmed = false ∧
      (p.rule.isSome = true → .check p.name ∈ steps)) ∧
    steps.filterMap ConstructorStep.taken? = t.stored.map RecordProperty.name ∧
      ConstructorStep.checksTaken [] steps = true

instance (t : RecordType) (b : Building) : Decidable (b.Fits t) :=
  match b with
  | .impossible => inferInstanceAs (Decidable (∀ p ∈ t.stored, _))
  | .editing => inferInstanceAs (Decidable (∀ p ∈ t.stored, _))
  | .collecting => inferInstanceAs (Decidable (∀ p ∈ t.stored, _))
  | .buffering _ => inferInstanceAs (Decidable ((∀ p ∈ t.stored, _) ∧ _))

/-- What is asked of a record type so that its beans can be built again from what they show. -/
structure RecordType.Rebuildable (t : RecordType) : Prop where
  lawful : t.Lawful
  /-- What a conversion yields is converted to itself. -/
  strict : ∀ p ∈ t.stored, p.type.isStrict = true
  /-- What is supplied to a builder or written is stored. -/
  isStored : ∀ p ∈ t.properties, Cloner.isCopied p.description = true ∨
    p.description.settable = true → p.isStored = true
  /-- What is shown but not copied cannot be written. -/
  fixed : ∀ p ∈ t.stored, Cloner.isCopied p.description = false →
    p.description.style.isReadable = true → p.description.settable = false
  /-- Values are computed from what is copied. -/
  inputs : t.isBuildable = true → ∀ p ∈ t.properties, ∀ n ∈ p.inputs,
    ∃ q ∈ t.stored, q.name = n ∧ Cloner.isCopied q.description = true
  building : t.building.Fits t

instance (t : RecordType) : Decidable t.Rebuildable :=
  decidable_of_iff (t.Lawful ∧ (∀ p ∈ t.stored, p.type.isStrict = true) ∧
      (∀ p ∈ t.properties, Cloner.isCopied p.description = true ∨
        p.description.settable = true → p.isStored = true) ∧
      (∀ p ∈ t.stored, Cloner.isCopied p.description = false →
        p.description.style.isReadable = true → p.description.settable = false) ∧
      (t.isBuildable = true → ∀ p ∈ t.properties, ∀ n ∈ p.inputs,
        ∃ q ∈ t.stored, q.name = n ∧ Cloner.isCopied q.description = true) ∧
      t.building.Fits t)
    ⟨fun ⟨hlawful, hstrict, hstored, hfixed, hinputs, hbuilding⟩ =>
      ⟨hlawful, hstrict, hstored, hfixed, hinputs, hbuilding⟩,
      fun h => ⟨h.lawful, h.strict, h.isStored, h.fixed, h.inputs, h.building⟩⟩

/-- All sample types can be built again. -/
theorem Sample.rebuildable : ∀ entry ∈ Sample.recordTypes, entry.2.Rebuildable := by
  decide +kernel

/-! ## Fields of records -/

/-- Fields as the beans of a record type have them. -/
structure RecordType.Fits (t : RecordType) (fields : List (String × Value)) : Prop where
  names : fields.map Prod.fst = t.stored.map RecordProperty.name
  /-- Each field holds a value of the type of its property. -/
  typed : ∀ p ∈ t.stored, ∀ v, fields.lookup p.name = some v →
    ∃ x, Typed.HasType p.type x ∧ v = x.toValue
  trimmed : ∀ p ∈ t.stored, p.trimmed = true → ∀ v, fields.lookup p.name = some v → v.trimmed = v
  /-- What is shown but not copied is as it was from the start. -/
  fixed : ∀ p ∈ t.stored, Cloner.isCopied p.description = false →
    p.description.style.isReadable = true → fields.lookup p.name = t.default.fields.lookup p.name

/-- All beans in a value have fields as their types ask for, and objects are told apart by their
labels. -/
inductive Value.Regular : Value → Prop
  | scalar (s : Scalar) : Regular (.scalar s)
  | list {items : List Value} (hitems : ∀ v ∈ items, Regular v) : Regular (.list items)
  | set {items : List Value} (hitems : ∀ v ∈ items, Regular v) : Regular (.set items)
  | map {entries : List (Value × Value)} (hkeys : ∀ e ∈ entries, Regular e.1)
      (hvalues : ∀ e ∈ entries, Regular e.2) : Regular (.map entries)
  | absent : Regular (.optional none)
  | present {v : Value} (hv : Regular v) : Regular (.optional (some v))
  | thing {i : Identity} (hi : i ≠ .made) (t : Thing) : Regular (.thing i t)
  | grid (i : Identity) {g : Grid Value} (hcells : ∀ c ∈ g.cells, Regular c.2) :
      Regular (.grid i g)
  | record {t : RecordType} {fields : List (String × Value)} (ht : t.Rebuildable)
      (hfits : t.Fits fields) (hfields : ∀ f ∈ fields, Regular f.2) :
      Regular (.bean ⟨.record t, fields⟩)
  | flexible {types : List (String × ResolvedType)} {fields : List (String × Value)}
      (hnames : (fields.map Prod.fst).Nodup) (hfields : ∀ f ∈ fields, Regular f.2) :
      Regular (.bean ⟨.flexible types, fields⟩)
  | sorted {fields : List (String × Value)} (hnames : (fields.map Prod.fst).Pairwise (· < ·))
      (hfields : ∀ f ∈ fields, Regular f.2) : Regular (.bean ⟨.sorted, fields⟩)

/-! ## Conversions -/

/-- What is listed in a regular value is regular. -/
lemma Value.Regular.items {items : List Value} {v : Value} (hv : v.Regular)
    (hitems : v = .list items ∨ v = .set items) : ∀ w ∈ items, w.Regular := by
  obtain rfl | rfl := hitems
  · cases hv with | list hv => exact hv
  · cases hv with | set hv => exact hv

/-- **Conversions keep values regular.**

**Proof sketch.** Induction on the type. A conversion of a type with parts goes over the parts one
by one, so that each new part is the image of an old one; sets and maps only put them in order. -/
theorem Value.Regular.ofValue {T : ValueType} {v : Value} {x : Typed} (hv : v.Regular)
    (h : T.ofValue v = .ok x) : x.toValue.Regular := by
  induction T generalizing v x with
  | option T ih =>
    obtain rfl | ⟨w, y, hw, hy, rfl⟩ := ValueType.ofValue_option h
    · exact .absent
    · refine .present (ih ?_ hy)
      obtain rfl | rfl := hw
      · exact hv
      · cases hv with | present hv => exact hv
  | wrapper w T ih => exact ih hv h
  | sequence s T ih =>
    obtain ⟨items, xs, hitems, hxs, rfl⟩ := ValueType.ofValue_sequence h
    have hregular := hv.items hitems
    rw [Typed.toValue_sequence]
    refine .list (forall_mem_map.mpr fun y hy => ?_)
    obtain ⟨w, hw, hwy⟩ := Order.exists_of_forall₂ hxs.flip hy
    exact ih (hregular w hw) hwy
  | set s T ih =>
    obtain ⟨items, xs, hitems, hxs, rfl⟩ := ValueType.ofValue_set h
    have hregular := hv.items hitems
    rw [Typed.ofItems, Typed.toValue_set]
    refine .set (forall_mem_map.mpr fun y hy => ?_)
    obtain ⟨w, hw, hwy⟩ := Order.exists_of_forall₂ hxs.flip (Typed.mem_of_mem_arrangeBy hy)
    exact ih (hregular w hw) hwy
  | map s K V ihk ihv =>
    obtain ⟨entries, es, rfl, hes, rfl⟩ := ValueType.ofValue_map h
    cases hv with | map hkeys hvalues =>
    rw [Typed.ofEntries, Typed.toValue_map]
    refine .map (forall_mem_map.mpr fun f hf => ?_) (forall_mem_map.mpr fun f hf => ?_)
    all_goals obtain ⟨e, he, hef⟩ := Order.exists_of_forall₂ hes.flip (Typed.mem_of_mem_arrangeBy hf)
    · exact ihk (hkeys e he) hef.1
    · exact ihv (hvalues e he) hef.2
  | grid T ih =>
    obtain ⟨i, g, cells, rfl, hcells, rfl⟩ := ValueType.ofValue_grid h
    cases hv with | grid _ hv =>
    rw [Typed.toValue_grid]
    refine .grid _ (forall_mem_map.mpr fun d hd => ?_)
    obtain ⟨c, hc, hcd⟩ := Order.exists_of_forall₂ hcells.flip hd
    exact ih (hv c hc) hcd.2
  | bean t =>
    obtain ⟨b, rfl, -, rfl⟩ := ValueType.ofValue_bean h
    exact hv
  | any =>
    cases h
    exact hv
  | int t =>
    cases ValueType.hasType_of_ofValue rfl h with
    | signed => exact .scalar _
    | unsigned => exact .scalar _
  | double | single | bool | char | text =>
    cases ValueType.hasType_of_ofValue rfl h
    exact .scalar _

/-- The default of a type is of the type; it has no blanks at its ends, and no beans inside. -/
lemma ValueType.default?_regular {T : ValueType} {x : Typed} (hT : T.isStrict = true)
    (h : T.default? = some x) :
    Typed.HasType T x ∧ x.toValue.trimmed = x.toValue ∧ x.toValue.Regular := by
  induction T with
  | wrapper w T ih =>
    obtain ⟨htype, htrimmed, hregular⟩ := ih hT h
    exact ⟨.wrapper w htype, htrimmed, hregular⟩
  | int t =>
    cases t <;> obtain rfl := Option.some.inj h
    case i8 | i16 | i32 | i64 | isize => exact ⟨.signed rfl (by decide), rfl, .scalar _⟩
    case u8 | u16 | u32 | u64 | usize => exact ⟨.unsigned rfl (by decide), rfl, .scalar _⟩
  | single =>
    obtain rfl := Option.some.inj h
    exact ⟨.single (Number.Binary32.not_isSignaling_of_le (by decide)), rfl, .scalar _⟩
  | double | bool | char | text =>
    obtain rfl := Option.some.inj h
    exact ⟨by constructor, rfl, .scalar _⟩
  | option T =>
    obtain rfl := Option.some.inj h
    exact ⟨.absent T, rfl, .absent⟩
  | sequence s T =>
    obtain rfl := Option.some.inj h
    exact ⟨.sequence s (forall_mem_nil _), rfl, .list (forall_mem_nil _)⟩
  | set s T =>
    obtain rfl := Option.some.inj h
    have hkey := ValueType.isKey_iff.mp (Bool.and_eq_true_iff.mp hT).2
    have hholds : s.Holds [] := by cases s <;> exact .nil
    exact ⟨.set hkey (forall_mem_nil _) hholds, rfl, .set (forall_mem_nil _)⟩
  | map s K V =>
    obtain rfl := Option.some.inj h
    have hkey := ValueType.isKey_iff.mp
      (Bool.and_eq_true_iff.mp (Bool.and_eq_true_iff.mp hT).1).2
    have hholds : s.Holds [] := by cases s <;> exact .nil
    exact ⟨.map hkey (forall_mem_nil _) (forall_mem_nil _) hholds, rfl,
      .map (forall_mem_nil _) (forall_mem_nil _)⟩
  | grid T =>
    obtain rfl := Option.some.inj h
    exact ⟨.grid (forall_mem_nil _), rfl, .grid _ (forall_mem_nil _)⟩
  | any => cases h
  | bean t => cases h

/-- What a builder starts with is the default. -/
lemma ValueType.default?_of_initial? {T : ValueType} {x : Typed} (h : T.initial? = some x) :
    T.default? = some x := by
  cases T <;> first | exact h | cases h

/-! ## Trimming -/

/-- A trimmed value stays as it is. -/
lemma Value.trimmed_idem (v : Value) : v.trimmed.trimmed = v.trimmed := by
  cases v with
  | scalar s =>
    cases s with
    | text s => exact congrArg Value.text (Text.trim_idem s)
    | _ => rfl
  | _ => rfl

/-- Trimming changes nothing but texts. -/
lemma Value.trimmed_eq (v : Value) : v.trimmed = v ∨ ∃ s, v.trimmed = .scalar s := by
  cases v with
  | scalar s => cases s <;> exact .inr ⟨_, rfl⟩
  | _ => exact .inl rfl

/-- Trimming keeps the type. -/
lemma Typed.HasType.trimmed {T : ValueType} {x : Typed} (h : HasType T x) :
    ∃ y, HasType T y ∧ x.toValue.trimmed = y.toValue := by
  induction h with
  | text s => exact ⟨_, .text (Text.trim s), rfl⟩
  | any v => exact ⟨_, .any v.trimmed, rfl⟩
  | wrapper w _ ih =>
    obtain ⟨y, hy, htrimmed⟩ := ih
    exact ⟨y, .wrapper w hy, htrimmed⟩
  | signed ht hi => exact ⟨_, .signed ht hi, rfl⟩
  | unsigned ht hu => exact ⟨_, .unsigned ht hu, rfl⟩
  | double x => exact ⟨_, .double x, rfl⟩
  | single hx => exact ⟨_, .single hx, rfl⟩
  | bool b => exact ⟨_, .bool b, rfl⟩
  | char c => exact ⟨_, .char c, rfl⟩
  | absent T => exact ⟨_, .absent T, rfl⟩
  | present ha => exact ⟨_, .present ha, rfl⟩
  | sequence s hitems => exact ⟨_, .sequence s hitems, rfl⟩
  | set hT hitems hholds => exact ⟨_, .set hT hitems hholds, rfl⟩
  | map hK hkeys hvalues hholds => exact ⟨_, .map hK hkeys hvalues hholds, rfl⟩
  | @grid T g hcells => exact ⟨.grid g, .grid hcells, by rw [toValue_grid]; rfl⟩
  | bean hb => exact ⟨_, .bean hb, rfl⟩

/-! ## What properties take -/

section

variable {p : RecordProperty} {v w : Value}

/-- **What a property takes** is of its type, and regular if it was. -/
theorem RecordProperty.accepted (hp : p.type.isStrict = true) (h : p.accept v = .ok w) :
    (∃ x, Typed.HasType p.type x ∧ w = x.toValue) ∧ (p.trimmed = true → w.trimmed = w) ∧
      (v.Regular → w.Regular) := by
  obtain ⟨u, hu, hrest⟩ := bind_eq_ok_iff.mp h
  obtain ⟨x, hx, rfl⟩ := map_eq_ok_iff.mp hu
  have htype := ValueType.hasType_of_ofValue hp hx
  obtain rfl : (if p.trimmed then x.toValue.trimmed else x.toValue) = w := by
    cases hrule : p.rule with
    | none => exact Except.ok.inj (hrule ▸ hrest)
    | some r =>
      rw [hrule] at hrest
      obtain ⟨_, _, hw⟩ := bind_eq_ok_iff.mp hrest
      exact Except.ok.inj hw
  cases htrim : p.trimmed with
  | false => exact ⟨⟨x, htype, rfl⟩, Bool.noConfusion, fun hv => hv.ofValue hx⟩
  | true =>
    refine ⟨htype.trimmed, fun _ => Value.trimmed_idem _, fun hv => ?_⟩
    change x.toValue.trimmed.Regular
    obtain heq | ⟨s, hs⟩ := Value.trimmed_eq x.toValue
    · rw [heq]
      exact hv.ofValue hx
    · rw [hs]
      exact .scalar s

variable {x : Typed} (hp : p.type.isStrict = true) (hx : Typed.HasType p.type x)

include hp hx

/-- What is of the type of a property is in the form of the type. -/
lemma Typed.HasType.convert_eq : p.type.convert x.toValue = .ok x.toValue := by
  rw [ValueType.convert, ValueType.ofValue_toValue_eq hp hx]
  rfl

/-- What is of the type of a property, and obeys its rule, is taken as it is. -/
lemma RecordProperty.accept_of_holds (htrim : p.trimmed = true → x.toValue.trimmed = x.toValue)
    (h : ∀ r, p.rule = some r → r.holds x.toValue = true) :
    p.accept x.toValue = .ok x.toValue := by
  rw [accept, hx.convert_eq hp]
  have htrimmed : (if p.trimmed then x.toValue.trimmed else x.toValue) = x.toValue := by
    cases hp' : p.trimmed with
    | false => rfl
    | true => exact htrim hp'
  cases hrule : p.rule with
  | none => exact congrArg Except.ok htrimmed
  | some r =>
    change (do (r.check p.name x.toValue); _) = _
    rw [Rule.check, if_pos (h r hrule)]
    exact congrArg Except.ok htrimmed

/-- What is of the type of a property, but breaks its rule, is not taken. -/
lemma RecordProperty.accept_of_not_holds {r : Rule} (hr : p.rule = some r)
    (h : r.holds x.toValue = false) :
    p.accept x.toValue = .error (.validation p.name r.message) := by
  rw [accept, hx.convert_eq hp, hr]
  change (do (r.check p.name x.toValue); _) = _
  rw [Rule.check, if_neg (by simp [h])]
  rfl

end

/-! ## Records -/

/-- What is found in a property map is one of its properties. -/
lemma PropertyMap.mem_of_find? {m : PropertyMap} {key : String} {p : MetaProperty}
    (h : m.find? key = some p) : p ∈ m.properties := by
  rw [find?] at h
  cases hnamed : m.named? key with
  | some q =>
    rw [hnamed] at h
    exact Option.some.inj h ▸ mem_of_find?_eq_some hnamed
  | none =>
    rw [hnamed] at h
    obtain ⟨name, -, h⟩ := Option.bind_eq_some_iff.mp h
    exact mem_of_find?_eq_some h

namespace RecordType

variable {t : RecordType} {fields : List (String × Value)} {p : RecordProperty}

/-- The stored properties of a lawful type have different names. -/
lemma Lawful.nodup_stored (ht : t.Lawful) : (t.stored.map RecordProperty.name).Nodup :=
  ht.nodup.sublist (filter_sublist.map _)

/-- A property of a lawful type is found by its name. -/
lemma Lawful.property?_eq (ht : t.Lawful) (hp : p ∈ t.properties) :
    t.property? p.name = some p :=
  find?_name_of_nodup ht.nodup hp

/-- What is found by a name is a property of that name. -/
lemma of_property? {name : String} (h : t.property? name = some p) :
    p ∈ t.properties ∧ p.name = name :=
  ⟨mem_of_find?_eq_some h, by simpa using find?_some h⟩

/-- The description of a property is found by the name of the property. -/
lemma Lawful.find?_table (ht : t.Lawful) (hp : p ∈ t.properties) :
    t.table.find? p.name = some p.description := by
  have hnodup : (t.table.properties.map MetaProperty.name).Nodup := by
    rw [table, map_map]
    exact ht.nodup
  have hnamed : t.table.named? p.name = some p.description :=
    find?_name_of_nodup hnodup (mem_map_of_mem hp)
  rw [PropertyMap.find?, hnamed]
  rfl

/-- What is tabulated for the stored properties is found. -/
lemma Lawful.lookup_tabulate (ht : t.Lawful) (hp : p ∈ t.stored) (f : RecordProperty → Value) :
    (t.stored.map fun q => (q.name, f q)).lookup p.name = some (f p) := by
  have hnodup : ((t.stored.map fun q => (q.name, f q)).map Prod.fst).Nodup := by
    rw [map_map]
    exact ht.nodup_stored
  exact lookup_of_nodup hnodup (mem_map_of_mem hp)

end RecordType

/-- The description of a property is the one in the table of the bean. -/
lemma Bean.metaProperty_eq_ok_iff {b : Bean} {name : String} {d : MetaProperty} :
    b.metaProperty name = .ok d ↔ b.table.find? name = some d := by
  rw [metaProperty]
  cases b.table.find? name <;> simp

section

variable {t : RecordType} {fields : List (String × Value)} {name : String} {v : Value}

/-- A property of a record stores what it takes. -/
lemma write_record_eq {p : RecordProperty} (hp : t.property? name = some p) :
    Bean.write ⟨.record t, fields⟩ name v =
      (p.accept v).map fun w => ⟨.record t, putField name w fields⟩ := by
  simp only [Bean.write, hp]

/-- Writing a property that can be written stores what the property takes. -/
lemma set_record_eq (ht : t.Lawful) {p : RecordProperty} (hp : p ∈ t.properties)
    (hsettable : p.description.settable = true) :
    Bean.set ⟨.record t, fields⟩ p.name v =
      (p.accept v).map fun w => ⟨.record t, putField p.name w fields⟩ := by
  have hfound : Bean.metaProperty ⟨.record t, fields⟩ p.name = .ok p.description :=
    Bean.metaProperty_eq_ok_iff.mpr (ht.find?_table hp)
  have hcheck : p.description.checkBean ⟨.record t, fields⟩ = .ok () := if_pos (ht.holder p hp)
  rw [Bean.set, hfound]
  change MetaProperty.set p.description ⟨.record t, fields⟩ v = _
  rw [MetaProperty.set, hsettable, hcheck]
  exact write_record_eq (ht.property?_eq hp)

/-- **What writing does to a record**: a property that can be written takes the value. -/
theorem of_set_record (ht : t.Lawful) {b : Bean} (h : Bean.set ⟨.record t, fields⟩ name v = .ok b) :
    ∃ p ∈ t.properties, p.description.settable = true ∧
      ∃ w, p.accept v = .ok w ∧ b = ⟨.record t, putField p.name w fields⟩ := by
  obtain ⟨d, hd, hset⟩ := bind_eq_ok_iff.mp h
  have hfound : t.table.find? name = some d := Bean.metaProperty_eq_ok_iff.mp hd
  obtain ⟨p, hp, rfl⟩ := mem_map.mp (PropertyMap.mem_of_find? hfound)
  obtain ⟨hsettable, -⟩ := MetaProperty.of_set hset
  have hsame : Bean.set ⟨.record t, fields⟩ p.name v = .ok b :=
    bind_eq_ok_iff.mpr
      ⟨p.description, Bean.metaProperty_eq_ok_iff.mpr (ht.find?_table hp), hset⟩
  rw [set_record_eq ht hp hsettable] at hsame
  obtain ⟨w, hw, rfl⟩ := map_eq_ok_iff.mp hsame
  exact ⟨p, hp, hsettable, w, hw, rfl⟩

end

namespace RecordType

variable {t : RecordType} {fields : List (String × Value)} {p : RecordProperty}

/-- A stored property is a property. -/
lemma mem_properties (hp : p ∈ t.stored) : p ∈ t.properties := (mem_filter.mp hp).1

/-- The value of a stored property comes from its field. -/
lemma source_of_mem_stored (hp : p ∈ t.stored) : p.source = .stored := by
  have hstored : p.isStored = true := (mem_filter.mp hp).2
  unfold RecordProperty.isStored at hstored
  split at hstored
  case h_1 h => exact h
  case h_2 => cases hstored
  case h_3 => cases hstored

/-- Every stored property is looked for. -/
lemma mem_wanted : p ∈ t.wanted ↔ p ∈ t.stored := by
  rw [wanted, mem_flatMap]
  constructor
  · rintro ⟨key, -, hp⟩
    exact (mem_filter.mp hp).1
  · intro hp
    refine ⟨p.description.declaring.key, ?_, mem_filter.mpr ⟨hp, beq_self_eq_true _⟩⟩
    rw [declarers, mem_reverse, mem_eraseDups]
    exact mem_map_of_mem (mem_properties hp)

/-- The property of a name is the only one. -/
lemma Lawful.eq_of_name (ht : t.Lawful) {q : RecordProperty} (hp : p ∈ t.stored) (hq : q ∈ t.stored)
    (h : p.name = q.name) : p = q :=
  inj_on_of_nodup_map ht.nodup_stored hp hq h

namespace Fits

/-- There is a field for every stored property. -/
lemma exists_lookup (h : t.Fits fields) (hp : p ∈ t.stored) :
    ∃ x, Typed.HasType p.type x ∧ fields.lookup p.name = some x.toValue := by
  have hname : p.name ∈ fields.map Prod.fst := h.names ▸ mem_map_of_mem hp
  obtain ⟨v, hv⟩ := Beans.exists_lookup hname
  obtain ⟨x, hx, rfl⟩ := h.typed p hp v hv
  exact ⟨x, hx, hv⟩

/-- **Storing a value of its type keeps fields as they should be**, if what is shown but not copied is
left alone. -/
theorem putField (h : t.Fits fields) (ht : t.Lawful) (hp : p ∈ t.stored) {x : Typed}
    (hx : Typed.HasType p.type x) (htrimmed : p.trimmed = true → x.toValue.trimmed = x.toValue)
    (hfixed : Cloner.isCopied p.description = false → p.description.style.isReadable = false) :
    t.Fits (putField p.name x.toValue fields) := by
  -- the field of another property is as before
  have hcases {q : RecordProperty} (hq : q ∈ t.stored) :
      q = p ∨ (Beans.putField p.name x.toValue fields).lookup q.name = fields.lookup q.name := by
    by_cases hname : q.name = p.name
    · exact .inl (ht.eq_of_name hq hp hname)
    · exact .inr (lookup_putField_of_ne hname x.toValue fields)
  refine ⟨?_, fun q hq v hv => ?_, fun q hq htrim v hv => ?_, fun q hq hcopied hreadable => ?_⟩
  · rw [names_putField _ (h.names ▸ mem_map_of_mem hp), h.names]
  · obtain rfl | hsame := hcases hq
    · rw [lookup_putField] at hv
      exact ⟨x, hx, (Option.some.inj hv).symm⟩
    · exact h.typed q hq v (hsame ▸ hv)
  · obtain rfl | hsame := hcases hq
    · rw [lookup_putField] at hv
      exact Option.some.inj hv ▸ htrimmed htrim
    · exact h.trimmed q hq htrim v (hsame ▸ hv)
  · obtain rfl | hsame := hcases hq
    · rw [hfixed hcopied] at hreadable
      cases hreadable
    · rw [hsame, h.fixed q hq hcopied hreadable]

end Fits

/-- The fields of a default bean. -/
lemma lookup_default (ht : t.Lawful) (hp : p ∈ t.stored) {x : Typed} (hx : p.type.default? = some x) :
    t.default.fields.lookup p.name = some x.toValue := by
  rw [default, ht.lookup_tabulate hp, hx]
  rfl

/-- **A default bean has fields as its type asks for**, if all types have defaults. -/
theorem Rebuildable.fits_default (ht : t.Rebuildable)
    (hdefault : ∀ p ∈ t.stored, p.type.default?.isSome = true) :
    t.Fits t.default.fields ∧ ∀ f ∈ t.default.fields, f.2.Regular := by
  have hvalue {p : RecordProperty} (hp : p ∈ t.stored) : ∃ x, p.type.default? = some x ∧
      Typed.HasType p.type x ∧ x.toValue.trimmed = x.toValue ∧ x.toValue.Regular := by
    obtain ⟨x, hx⟩ := Option.isSome_iff_exists.mp (hdefault p hp)
    exact ⟨x, hx, ValueType.default?_regular (ht.strict p hp) hx⟩
  refine ⟨⟨?_, fun p hp v hv => ?_, fun p hp _ v hv => ?_, fun _ _ _ _ => rfl⟩, ?_⟩
  · rw [default, map_map]
    rfl
  · obtain ⟨x, hx, htype, -, -⟩ := hvalue hp
    rw [lookup_default ht.lawful hp hx] at hv
    exact ⟨x, htype, (Option.some.inj hv).symm⟩
  · obtain ⟨x, hx, -, htrimmed, -⟩ := hvalue hp
    rw [lookup_default ht.lawful hp hx] at hv
    exact Option.some.inj hv ▸ htrimmed
  · refine forall_mem_map.mpr fun p hp => ?_
    obtain ⟨x, hx, -, -, hregular⟩ := hvalue hp
    rw [hx]
    exact hregular

end RecordType

/-- **Writing to a regular record keeps it regular.** -/
theorem Value.Regular.set_record {t : RecordType} {fields : List (String × Value)} {name : String}
    {v : Value} {b : Bean} (hb : (Value.bean ⟨.record t, fields⟩).Regular) (hv : v.Regular)
    (h : Bean.set ⟨.record t, fields⟩ name v = .ok b) :
    (Value.bean b).Regular ∧ b.kind = .record t := by
  cases hb with | record ht hfits hfields =>
  obtain ⟨p, hp, hsettable, w, hw, rfl⟩ := of_set_record ht.lawful h
  have hstored : p ∈ t.stored := mem_filter.mpr ⟨hp, ht.isStored p hp (.inr hsettable)⟩
  obtain ⟨⟨x, hx, rfl⟩, htrimmed, hregular⟩ := RecordProperty.accepted (ht.strict p hstored) hw
  have hfixed (hcopied : Cloner.isCopied p.description = false) :
      p.description.style.isReadable = false := by
    by_contra hreadable
    rw [Bool.not_eq_false] at hreadable
    rw [ht.fixed p hstored hcopied hreadable] at hsettable
    cases hsettable
  refine ⟨.record ht (hfits.putField ht.lawful hstored hx htrimmed hfixed) fun f hf => ?_, rfl⟩
  obtain rfl | hf := mem_putField hf
  · exact hregular hv
  · exact hfields f hf

end Beans
