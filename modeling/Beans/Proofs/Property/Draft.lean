import Mathlib.Data.List.Nodup
import Mathlib.Tactic.Common
import Beans.Proofs.Bean.Fields
import Beans.Proofs.Bean.Snapshot
import Beans.Proofs.Result

/-!
# Drawing up property maps

A property map is drawn up by calls: each adds a property, an alias, or all that a parent has.
Whether the draft makes a map is decided at the end, in one pass over the names and one over the
aliases. Here it is said of the draft as a whole when it does, and what is found in the map then.

## Main definitions

* `Beans.MapCall` — a call, and `Beans.MapDraft.drawn`, the draft after several.
* `Beans.MapDraft.Coherent` — names and aliases are different, and each alias stands for something.
* `Beans.MapDraft.Resolves` — what is found in the map of a draft.

## Main results

* `Beans.MapDraft.resolveAliases_outcome` — when the aliases can be resolved, and what each stands
  for.
* `Beans.MapDraft.build_outcome` — a draft makes a map exactly if it is coherent.
* `Beans.MapDraft.build_drawn` — the map that several calls make, with what it has of its parents.
-/

set_option autoImplicit false

open List

namespace Beans

/-! ## Calls -/

/-- A call that adds to a draft. -/
inductive MapCall
  /-- A property is added. -/
  | property (p : MetaProperty)
  /-- An alias is added that stands for a name or for another alias. -/
  | alsoNamed (other name : String)
  /-- The properties of a parent are added, each changed by `wrap`, and its aliases. -/
  | inherit (parent : PropertyMap) (wrap : MetaProperty → MetaProperty)
  /-- The properties and the aliases of a parent are added as they are. -/
  | parent (parent : PropertyMap)

namespace MapCall

/-- The draft after a call. -/
def apply (d : MapDraft) : MapCall → MapDraft
  | property p => d.property p
  | alsoNamed other name => d.alsoNamed other name
  | inherit m wrap => d.inherit m wrap
  | parent m => d.parent m

/-- The properties that a call adds, in their order. -/
def properties : MapCall → List MetaProperty
  | property p => [p]
  | alsoNamed _ _ => []
  | inherit m wrap => m.properties.map wrap
  | parent m => m.properties

/-- The aliases that a call adds; those of a parent are in the order of their texts. -/
def aliases : MapCall → List (String × String)
  | property _ => []
  | alsoNamed other name => [(other, name)]
  | inherit m _ | parent m => Order.sortBy (fun a b => decide (a.1 ≤ b.1)) m.aliases

/-- The parent whose properties a call adds, with what is done to each of them. -/
def inherits? : MapCall → Option (PropertyMap × (MetaProperty → MetaProperty))
  | property _ | alsoNamed _ _ => none
  | inherit m wrap => some (m, wrap)
  | parent m => some (m, id)

variable {c : MapCall} {m : PropertyMap} {wrap : MetaProperty → MetaProperty}

/-- All properties of a parent are added. -/
lemma properties_of_inherits (h : c.inherits? = some (m, wrap)) :
    c.properties = m.properties.map wrap := by
  cases c with
  | property | alsoNamed => cases h
  | inherit m wrap =>
    cases h
    rfl
  | parent m =>
    cases h
    exact (map_id m.properties).symm

/-- All aliases of a parent are added. -/
lemma mem_aliases_of_inherits (h : c.inherits? = some (m, wrap)) {a : String × String} :
    a ∈ c.aliases ↔ a ∈ m.aliases := by
  cases c with
  | property | alsoNamed => cases h
  | inherit m wrap | parent m =>
    cases h
    exact (Order.sortBy_perm _ m.aliases).mem_iff

end MapCall

namespace MapDraft

/-- The draft after some calls. -/
def drawn (bean : String) (calls : List MapCall) : MapDraft := calls.foldl MapCall.apply (.new bean)

/-- What the calls add stands in the draft in the order of the calls. -/
lemma drawn_eq (bean : String) (calls : List MapCall) :
    drawn bean calls =
      ⟨bean, calls.flatMap MapCall.properties, calls.flatMap MapCall.aliases⟩ := by
  have hfold (d : MapDraft) : calls.foldl MapCall.apply d =
      ⟨d.bean, d.properties ++ calls.flatMap MapCall.properties,
        d.aliases ++ calls.flatMap MapCall.aliases⟩ := by
    induction calls generalizing d with
    | nil => simp
    | cons c calls ih =>
      have happly : c.apply d = ⟨d.bean, d.properties ++ c.properties, d.aliases ++ c.aliases⟩ := by
        cases c <;>
          simp [MapCall.apply, property, alsoNamed, inherit, parent, MapCall.properties,
            MapCall.aliases]
      rw [foldl_cons, ih, happly]
      simp
  rw [drawn, hfold]
  simp [new]

/-! ## Aliases -/

/-- The name of the property that a key stands for: the key itself, or what is known of it as an
alias. -/
def standsFor? (names : List String) (known : List (String × String)) (key : String) :
    Option String :=
  if names.contains key then some key else known.lookup key

/-- Names and aliases clash, or an alias stands for nothing. -/
def IsClash (bean : String) (e : BeanError) : Prop :=
  ∃ name, e = .duplicateProperty bean name ∨ e = .noSuchProperty bean name

/-- The aliases can be resolved after those that are known: all are different from each other and
from the names, and each stands for a name or for an alias before it. -/
structure Resolvable (names : List String) (known aliases : List (String × String)) : Prop where
  nodup : ((known ++ aliases).map Prod.fst).Nodup
  apart : ∀ a ∈ aliases, a.1 ∉ names
  targets : ∀ before a after, aliases = before ++ a :: after →
    a.2 ∈ names ∨ a.2 ∈ (known ++ before).map Prod.fst

section

variable {bean key other target p : String} {names : List String}
  {known aliases result : List (String × String)}

/-- A key stands for nothing if it is no name and no known alias. -/
lemma standsFor?_eq_none_iff :
    standsFor? names known key = none ↔ key ∉ names ∧ key ∉ known.map Prod.fst := by
  rw [standsFor?]
  by_cases hkey : key ∈ names
  · simp [hkey]
  · rw [if_neg (by simpa using hkey)]
    refine ⟨fun h => ⟨hkey, fun hmem => ?_⟩, fun h => lookup_of_not_mem h.2⟩
    obtain ⟨value, hvalue⟩ := exists_lookup hmem
    rw [h] at hvalue
    cases hvalue

/-- A key that stands for something is a name or a known alias. -/
lemma mem_or_mem_of_standsFor? (h : standsFor? names known key = some p) :
    key ∈ names ∨ key ∈ known.map Prod.fst := by
  by_contra hnot
  rw [standsFor?_eq_none_iff.mpr (not_or.mp hnot)] at h
  cases h

/-- What a key stands for is a name, if it is so for the known aliases. -/
lemma mem_of_standsFor? (hknown : ∀ a ∈ known, a.2 ∈ names)
    (h : standsFor? names known key = some p) : p ∈ names := by
  rw [standsFor?] at h
  split at h
  case isTrue hkey => exact Option.some.inj h ▸ by simpa using hkey
  case isFalse => exact hknown _ (mem_of_lookup h)

/-- What a key stands for does not change when more aliases become known. -/
lemma standsFor?_append (more : List (String × String))
    (h : standsFor? names known key = some p) : standsFor? names (known ++ more) key = some p := by
  rw [standsFor?] at h ⊢
  split at h
  case isTrue hkey => rw [if_pos hkey, h]
  case isFalse hkey => rw [if_neg hkey, lookup_append, h, Option.some_or]

/-- A new alias stands for its property. -/
lemma standsFor?_concat_self (hname : key ∉ names) (hmem : key ∉ known.map Prod.fst) :
    standsFor? names (known ++ [(key, p)]) key = some p := by
  rw [standsFor?, if_neg (by simpa using hname), lookup_append, lookup_of_not_mem hmem,
    lookup_cons_self, Option.none_or]

/-- An alias is refused if it is a name or a known alias. -/
lemma isRefused_iff : (names.contains key || (known.lookup key).isSome) = true ↔
    key ∈ names ∨ key ∈ known.map Prod.fst := by
  rw [Bool.or_eq_true, contains_iff_mem]
  refine or_congr_right ⟨fun h => ?_, fun h => ?_⟩
  · obtain ⟨value, hvalue⟩ := Option.isSome_iff_exists.mp h
    exact mem_map_of_mem (mem_of_lookup hvalue)
  · obtain ⟨value, hvalue⟩ := exists_lookup h
    rw [hvalue, Option.isSome_some]

/-- The first alias is resolved, and then the others, unless it stands for nothing or clashes. -/
lemma resolveAliases_cons :
    resolveAliases bean names known ((other, target) :: aliases) =
      match standsFor? names known target with
      | none => .error (.noSuchProperty bean target)
      | some property =>
        if names.contains other || (known.lookup other).isSome then
          .error (.duplicateProperty bean other)
        else resolveAliases bean names (known ++ [(other, property)]) aliases := rfl

/-- The first of the aliases can be resolved, and the others after it. -/
lemma resolvable_cons_iff (htarget : target ∈ names ∨ target ∈ known.map Prod.fst)
    (hother : other ∉ names) :
    Resolvable names known ((other, target) :: aliases) ↔
      Resolvable names (known ++ [(other, p)]) aliases := by
  have hkeys : (known ++ (other, target) :: aliases).map Prod.fst =
      (known ++ [(other, p)] ++ aliases).map Prod.fst := by simp
  constructor
  · intro h
    refine ⟨hkeys ▸ h.nodup, fun a ha => h.apart a (mem_cons_of_mem _ ha), ?_⟩
    rintro before a after rfl
    have hbefore := h.targets ((other, target) :: before) a after rfl
    simpa using hbefore
  · intro h
    refine ⟨hkeys ▸ h.nodup, forall_mem_cons.mpr ⟨hother, h.apart⟩, fun before a after heq => ?_⟩
    cases before with
    | nil =>
      obtain ⟨rfl, rfl⟩ := cons.inj heq
      simpa using htarget
    | cons first before =>
      obtain ⟨rfl, rfl⟩ := cons.inj heq
      have hbefore := h.targets before a after rfl
      simpa using hbefore

/-- **When the aliases can be resolved, and what each stands for**: the same as what it is an alias
of.

The induction is on the aliases that are left, for any that are known already. -/
theorem resolveAliases_outcome (hnodup : (known.map Prod.fst).Nodup)
    (hknown : ∀ a ∈ known, a.2 ∈ names) :
    Outcome (IsClash bean) (resolveAliases bean names known aliases)
      (Resolvable names known aliases) fun result =>
        (∃ found, result = known ++ found ∧ found.map Prod.fst = aliases.map Prod.fst) ∧
        (∀ a ∈ result, a.2 ∈ names) ∧
        ∀ a ∈ aliases, standsFor? names result a.1 = standsFor? names result a.2 := by
  induction aliases generalizing known with
  | nil =>
    have hgood : Resolvable names known [] :=
      ⟨by simpa using hnodup, forall_mem_nil _, fun before a after h => by simp at h⟩
    refine Outcome.congr (.ok ⟨⟨[], ?_, rfl⟩, hknown, forall_mem_nil _⟩) (iff_of_true trivial hgood)
    exact (append_nil known).symm
  | cons a aliases ih =>
    obtain ⟨other, target⟩ := a
    rw [resolveAliases_cons]
    cases hstands : standsFor? names known target with
    | none =>
      refine ⟨fun hgood => ?_, fun _ => ⟨_, rfl, target, .inr rfl⟩⟩
      obtain ⟨hname, hmem⟩ := standsFor?_eq_none_iff.mp hstands
      have htarget := hgood.targets [] (other, target) aliases rfl
      rw [append_nil] at htarget
      exact absurd htarget (not_or.mpr ⟨hname, hmem⟩)
    | some p =>
      by_cases hclash : other ∈ names ∨ other ∈ known.map Prod.fst
      · dsimp only
        rw [if_pos (isRefused_iff.mpr hclash)]
        refine ⟨fun hgood => ?_, fun _ => ⟨_, rfl, other, .inl rfl⟩⟩
        rcases hclash with hname | hmem
        · exact absurd hname (hgood.apart _ mem_cons_self)
        · have hkeys := hgood.nodup
          rw [map_append, nodup_append] at hkeys
          exact absurd rfl (hkeys.2.2 other hmem other mem_cons_self)
      · obtain ⟨hname, hmem⟩ := not_or.mp hclash
        dsimp only
        rw [if_neg (mt isRefused_iff.mp hclash)]
        have hp : p ∈ names := mem_of_standsFor? hknown hstands
        have hnodup' : ((known ++ [(other, p)]).map Prod.fst).Nodup := by
          rw [map_append]
          exact hnodup.append (nodup_singleton other) (by simpa using hmem)
        have hknown' : ∀ a ∈ known ++ [(other, p)], a.2 ∈ names := by
          intro a ha
          rcases mem_append.mp ha with ha | ha
          · exact hknown a ha
          · exact mem_singleton.mp ha ▸ hp
        refine Outcome.congr ((ih hnodup' hknown').mono fun _ result hresult => ?_)
          (resolvable_cons_iff (mem_or_mem_of_standsFor? hstands) hname).symm
        obtain ⟨⟨found, rfl, hfound⟩, hresult, hstandsFor⟩ := hresult
        refine ⟨⟨(other, p) :: found, by simp, by simp [hfound]⟩, hresult,
          forall_mem_cons.mpr ⟨?_, hstandsFor⟩⟩
        -- the alias and its target stand for the same, now and in the end
        rw [standsFor?_append found (standsFor?_concat_self hname hmem),
          standsFor?_append found (standsFor?_append _ hstands)]

end

/-! ## Building -/

/-- The draft makes a map: all names are different, and the aliases can be resolved. -/
structure Coherent (d : MapDraft) : Prop where
  names : (d.properties.map MetaProperty.name).Nodup
  aliases : (d.aliases.map Prod.fst).Nodup
  apart : ∀ a ∈ d.aliases, a.1 ∉ d.properties.map MetaProperty.name
  /-- Each alias stands for a name or for an alias before it. -/
  targets : ∀ before a after, d.aliases = before ++ a :: after →
    a.2 ∈ d.properties.map MetaProperty.name ∨ a.2 ∈ before.map Prod.fst

/-- What is found in the map of a draft: each property under its name, and under each alias what is
found under the name or alias that it stands for. -/
structure Resolves (d : MapDraft) (m : PropertyMap) : Prop where
  properties : m.properties = d.properties
  contains : ∀ key, m.contains key = true ↔
    key ∈ d.properties.map MetaProperty.name ∨ key ∈ d.aliases.map Prod.fst
  named : ∀ p ∈ d.properties, m.find? p.name = some p
  aliased : ∀ a ∈ d.aliases, m.find? a.1 = m.find? a.2

/-- A draft is coherent if its names are different and its aliases can be resolved. -/
lemma coherent_iff {d : MapDraft} : d.Coherent ↔
    (d.properties.map MetaProperty.name).Nodup ∧
      Resolvable (d.properties.map MetaProperty.name) [] d.aliases :=
  ⟨fun h => ⟨h.names, h.aliases, h.apart, h.targets⟩,
    fun ⟨hnames, h⟩ => ⟨hnames, h.nodup, h.apart, h.targets⟩⟩

/-- A key is found if it is a name, or stands for one. -/
lemma find?_eq_bind (m : PropertyMap) (key : String) :
    m.find? key = (standsFor? m.names m.aliases key).bind m.named? := by
  rw [PropertyMap.find?, standsFor?]
  by_cases hkey : key ∈ m.names
  · obtain ⟨p, hp, hname⟩ := mem_map.mp hkey
    have hfound : (m.named? key).isSome = true :=
      find?_isSome.mpr ⟨p, hp, beq_iff_eq.mpr hname⟩
    obtain ⟨q, hq⟩ := Option.isSome_iff_exists.mp hfound
    rw [if_pos (by simpa using hkey), Option.bind_some, hq]
    rfl
  · have hnone : m.named? key = none :=
      find?_eq_none.mpr fun p hp h => hkey (beq_iff_eq.mp h ▸ mem_map_of_mem hp)
    rw [if_neg (by simpa using hkey), hnone]
    rfl

/-- What is found in a map with resolved aliases. -/
lemma resolves_of_standsFor {d : MapDraft} {result : List (String × String)}
    (hnames : (d.properties.map MetaProperty.name).Nodup)
    (hkeys : result.map Prod.fst = d.aliases.map Prod.fst)
    (hresult : ∀ a ∈ result, a.2 ∈ d.properties.map MetaProperty.name)
    (hstandsFor : ∀ a ∈ d.aliases,
      standsFor? (d.properties.map MetaProperty.name) result a.1 =
        standsFor? (d.properties.map MetaProperty.name) result a.2) :
    d.Resolves ⟨d.properties, result⟩ where
  properties := rfl
  contains := by
    intro key
    rw [PropertyMap.contains, find?_eq_bind, ← hkeys]
    cases hstands : standsFor? (d.properties.map MetaProperty.name) result key with
    | none =>
      have hnot := standsFor?_eq_none_iff.mp hstands
      exact iff_of_false (by simp [PropertyMap.names, hstands]) (not_or.mpr hnot)
    | some name =>
      obtain ⟨p, hp, hname⟩ := mem_map.mp (mem_of_standsFor? hresult hstands)
      have hfound : (⟨d.properties, result⟩ : PropertyMap).named? p.name = some p :=
        find?_name_of_nodup hnames hp
      refine iff_of_true ?_ (mem_or_mem_of_standsFor? hstands)
      simp [PropertyMap.names, hstands, ← hname, hfound]
  named := by
    intro p hp
    have hname : (d.properties.map MetaProperty.name).contains p.name = true := by
      simpa using ⟨p, hp, rfl⟩
    rw [find?_eq_bind, standsFor?, PropertyMap.names, if_pos hname]
    exact find?_name_of_nodup hnames hp
  aliased := by
    intro a ha
    rw [find?_eq_bind, find?_eq_bind]
    exact congrArg (Option.bind · _) (hstandsFor a ha)

/-- **A draft makes a map exactly if it is coherent.** Otherwise the error names what clashes, or
what is missing. -/
theorem build_outcome (d : MapDraft) :
    Outcome (IsClash d.bean) d.build d.Coherent d.Resolves := by
  rw [build]
  cases hrepeated : firstRepeated? [] (d.properties.map MetaProperty.name) with
  | some name =>
    refine ⟨fun h => ?_, fun _ => ⟨_, rfl, name, .inl rfl⟩⟩
    rw [firstRepeated?_eq_none_iff.mpr ⟨h.names, by simp⟩] at hrepeated
    cases hrepeated
  | none =>
    have hnames := (firstRepeated?_eq_none_iff.mp hrepeated).1
    have haliases : Outcome (IsClash d.bean)
        (resolveAliases d.bean (d.properties.map MetaProperty.name) [] d.aliases) _ _ :=
      resolveAliases_outcome nodup_nil (forall_mem_nil _)
    refine Outcome.congr (haliases.map fun result hresult => ?_)
      (coherent_iff.trans (and_iff_right hnames)).symm
    obtain ⟨⟨found, rfl, hkeys⟩, hresult, hstandsFor⟩ := hresult
    exact resolves_of_standsFor hnames hkeys hresult hstandsFor

/-- What a parent shows under a key, its child shows changed by `wrap`, if that keeps the names. -/
lemma Resolves.find?_inherited {bean : String} {calls : List MapCall} {m parent : PropertyMap}
    {wrap : MetaProperty → MetaProperty} {c : MapCall} (h : (drawn bean calls).Resolves m)
    (hc : c ∈ calls) (hparent : c.inherits? = some (parent, wrap))
    (hwrap : ∀ p ∈ parent.properties, (wrap p).name = p.name) {key : String} {p : MetaProperty}
    (hp : parent.find? key = some p) : m.find? key = some (wrap p) := by
  rw [drawn_eq] at h
  -- the child has what the parent has under the name of a property
  have hname {name : String} (hp : parent.named? name = some p) : m.find? name = some (wrap p) := by
    have hmem : p ∈ parent.properties := mem_of_find?_eq_some hp
    have hpname : p.name = name := by simpa using find?_some hp
    have hadded : wrap p ∈ c.properties := by
      rw [MapCall.properties_of_inherits hparent]
      exact mem_map_of_mem hmem
    have hfound := h.named (wrap p) (mem_flatMap.mpr ⟨c, hc, hadded⟩)
    rwa [hwrap p hmem, hpname] at hfound
  rw [find?_eq_bind] at hp
  obtain ⟨name, hstands, hp⟩ := Option.bind_eq_some_iff.mp hp
  rw [standsFor?] at hstands
  split at hstands
  case isTrue =>
    obtain rfl := Option.some.inj hstands
    exact hname hp
  case isFalse =>
    have hadded : (key, name) ∈ c.aliases :=
      (MapCall.mem_aliases_of_inherits hparent).mpr (mem_of_lookup hstands)
    have haliased := h.aliased (key, name) (mem_flatMap.mpr ⟨c, hc, hadded⟩)
    exact haliased.trans (hname hp)

/-- **The map that several calls make.** There is one exactly if all names are different, those of
the parents included, no alias is a name or another alias, and each alias stands for a name or for
an alias before it. The map has each property once, in the order of the calls, with those of a
parent where it was added. A key is found in it if it is a name or an alias: a name with its
property, and an alias with what is found under the name or alias that it stands for. What a parent
shows under a name or an alias, the map shows, too, as it was changed when it was added, unless that
changed names. -/
theorem build_drawn (bean : String) (calls : List MapCall) :
    let d := drawn bean calls
    let added := calls.flatMap MapCall.properties
    let aliases := calls.flatMap MapCall.aliases
    d.properties = added ∧ d.aliases = aliases ∧
    ((∃ m, d.build = .ok m) ↔
      (added.map MetaProperty.name).Nodup ∧ (aliases.map Prod.fst).Nodup ∧
      (∀ a ∈ aliases, a.1 ∉ added.map MetaProperty.name) ∧
      ∀ before a after, aliases = before ++ a :: after →
        a.2 ∈ added.map MetaProperty.name ∨ a.2 ∈ before.map Prod.fst) ∧
    ∀ m, d.build = .ok m →
      m.properties = added ∧ m.names = added.map MetaProperty.name ∧ m.names.Nodup ∧
      (∀ key, (m.find? key).isSome = true ↔ key ∈ m.names ∨ key ∈ aliases.map Prod.fst) ∧
      (∀ p ∈ added, m.find? p.name = some p) ∧
      (∀ a ∈ aliases, m.find? a.1 = m.find? a.2) ∧
      ∀ c ∈ calls, ∀ parent wrap, c.inherits? = some (parent, wrap) →
        (∀ p ∈ parent.properties, (wrap p).name = p.name) →
          ∀ key p, parent.find? key = some p → m.find? key = some (wrap p) := by
  intro d added aliases
  have hd : d = ⟨bean, added, aliases⟩ := drawn_eq bean calls
  have hproperties : d.properties = added := congrArg MapDraft.properties hd
  have haliases : d.aliases = aliases := congrArg MapDraft.aliases hd
  have houtcome := build_outcome d
  refine ⟨hproperties, haliases, ?_, fun m hm => ?_⟩
  · rw [← hproperties, ← haliases]
    exact houtcome.exists_ok_iff.trans
      ⟨fun h => ⟨h.names, h.aliases, h.apart, h.targets⟩,
        fun ⟨hnames, hkeys, hapart, htargets⟩ => ⟨hnames, hkeys, hapart, htargets⟩⟩
  · obtain ⟨hcoherent, hresolves⟩ := houtcome.of_ok hm
    have hnames : m.names = added.map MetaProperty.name := by
      rw [PropertyMap.names, hresolves.properties, hproperties]
    refine ⟨hresolves.properties.trans hproperties, hnames, ?_, fun key => ?_, fun p hp => ?_,
      fun a ha => ?_, fun c hc parent wrap hparent hwrap key p hp => ?_⟩
    · rw [hnames, ← hproperties]
      exact hcoherent.names
    · rw [hnames, ← hproperties, ← haliases]
      exact hresolves.contains key
    · exact hresolves.named p (hproperties ▸ hp)
    · exact hresolves.aliased a (haliases ▸ ha)
    · exact hresolves.find?_inherited hc hparent hwrap hp

/-- An alias cannot stand for one that is added after it. -/
example : (drawn "T" [.alsoNamed "c" "b", .property (.ofEntry flexibleType "a" .any),
    .alsoNamed "b" "a"]).build.toOption.isSome = false := rfl

end MapDraft

end Beans
