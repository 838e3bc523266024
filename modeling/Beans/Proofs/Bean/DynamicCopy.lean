import Mathlib.Tactic.Common
import Beans.Proofs.Bean.Copied
import Beans.Proofs.Bean.Legible
import Beans.Proofs.Bean.Rebuild
import Beans.Proofs.Value.Order

/-!
# Copies of dynamic data

Values without beans of declared types can always be copied: there is no rule that a copied value could
break, and every property can be read. The copy shows the same as the value, so it is equal to it,
stands at the same place in the order, and has the same digest and texts. All it lacks are the types
that were declared for the properties of its beans.

## Main definitions

* `Beans.Value.Dynamic` — a value that is made of scalars, collections, objects and beans with any
  properties.
* `Beans.Value.Replica` — what is to be seen of the copy of a value.

## Main results

* `Beans.Value.Dynamic.exists_replica` — the copy of dynamic data.
* `Beans.Value.Dynamic.same_self` — dynamic data is equal to itself.
* `Beans.Value.clone_dynamic` — the copy is exact.
-/

set_option autoImplicit false

open List Std

namespace Beans

/-! ## Dynamic data -/

/-- A value is made of scalars, collections, optional values, beans with any properties and, if they
are admitted, objects. Objects are told apart by their labels; one that was made to show a grid holds
dynamic data. -/
inductive Value.Dynamic (objects : Prop) : Value → Prop
  | scalar (s : Scalar) : Dynamic objects (.scalar s)
  | list {items : List Value} (hitems : ∀ v ∈ items, Dynamic objects v) : Dynamic objects (.list items)
  | set {items : List Value} (hitems : ∀ v ∈ items, Dynamic objects v) : Dynamic objects (.set items)
  | map {entries : List (Value × Value)} (hkeys : ∀ e ∈ entries, Dynamic objects e.1)
      (hvalues : ∀ e ∈ entries, Dynamic objects e.2) : Dynamic objects (.map entries)
  | absent : Dynamic objects (.optional none)
  | present {v : Value} (hv : Dynamic objects v) : Dynamic objects (.optional (some v))
  | flexible {types : List (String × ResolvedType)} {fields : List (String × Value)}
      (hnames : (fields.map Prod.fst).Nodup) (hfields : ∀ f ∈ fields, Dynamic objects f.2) :
      Dynamic objects (.bean ⟨.flexible types, fields⟩)
  | sorted {fields : List (String × Value)} (hnames : (fields.map Prod.fst).Pairwise (· < ·))
      (hfields : ∀ f ∈ fields, Dynamic objects f.2) : Dynamic objects (.bean ⟨.sorted, fields⟩)
  | thing (h : objects) {i : Identity} (hi : i ≠ .made) (t : Thing) : Dynamic objects (.thing i t)
  | object (h : objects) {i : Identity} (hi : i ≠ .made) (g : Grid Value) :
      Dynamic objects (.grid i g)
  | grid (h : objects) (i : Identity) {g : Grid Value} (hcells : ∀ c ∈ g.cells, Dynamic objects c.2) :
      Dynamic objects (.grid i g)

/-! ## Texts of several values -/

namespace Value

/-- Texts are made value by value. -/
lemma displayAll_eq_map (vs : List Value) : displayAll vs = vs.map display := by
  induction vs with
  | nil => rfl
  | cons v vs ih => exact congrArg _ ih

/-- Texts of entries are made entry by entry. -/
lemma displayEntries_eq_map (es : List (Value × Value)) :
    displayEntries es = es.map fun e => e.1.display ++ "=" ++ e.2.display := by
  induction es with
  | nil => rfl
  | cons e es ih => exact congrArg _ ih

/-- Texts of fields are made field by field. -/
lemma displayFields_eq_map (fs : List (String × Value)) :
    displayFields fs = fs.map fun f => (f.1, f.2.display) := by
  induction fs with
  | nil => rfl
  | cons f fs ih => exact congrArg _ ih

/-- Texts for developers are made value by value. -/
lemma debugAll_eq_map (vs : List Value) : debugAll vs = vs.map debug := by
  induction vs with
  | nil => rfl
  | cons v vs ih => exact congrArg _ ih

/-- Texts of entries for developers are made entry by entry. -/
lemma debugEntries_eq_map (es : List (Value × Value)) :
    debugEntries es = es.map fun e => "(" ++ e.1.debug ++ ", " ++ e.2.debug ++ ")" := by
  induction es with
  | nil => rfl
  | cons e es ih => exact congrArg _ ih

/-! ## Replicas -/

/-- A value is the copy of another one, for all cloners that share objects if there are any, and shows
the same. -/
structure Replica (objects : Prop) (v w : Value) : Prop where
  clone : ∀ c : Cloner, (objects → c.tier = .collections) → c.cloneValue v = .ok w
  observe : ∀ order, w.observeBy order = v.observeBy order
  display : w.display = v.display
  debug : w.debug = v.debug

namespace Replica

variable {objects : Prop} {w : Value → Value}

/-- What is the same of each item before and after it is replaced is the same of all. -/
lemma map_replaced {α β : Type} {replace : α → α} {see : α → β} {items : List α}
    (h : ∀ a ∈ items, see (replace a) = see a) :
    (items.map replace).map see = items.map see := by
  rw [map_map]
  exact map_congr_left h

section

variable {items : List Value} (h : ∀ v ∈ items, Replica objects v (w v))

include h

/-- Values are copied if each of them is. -/
lemma cloneAll (c : Cloner) (hc : objects → c.tier = .collections) :
    c.cloneAll items = .ok (items.map w) := by
  rw [Cloner.cloneAll_eq_mapM, mapM_eq_ok_iff, forall₂_map_right_iff, forall₂_same]
  exact fun v hv => (h v hv).clone c hc

/-- Values show the same if each of them does. -/
lemma observeAllBy (order : Identity → Identity → Ordering) :
    Value.observeAllBy order (items.map w) = Value.observeAllBy order items := by
  rw [observeAllBy_eq_map, observeAllBy_eq_map]
  exact map_replaced fun v hv => (h v hv).observe order

/-- Values have the same texts if each of them has. -/
lemma displayAll : Value.displayAll (items.map w) = Value.displayAll items := by
  rw [displayAll_eq_map, displayAll_eq_map]
  exact map_replaced fun v hv => (h v hv).display

/-- Values have the same texts for developers if each of them has. -/
lemma debugAll : Value.debugAll (items.map w) = Value.debugAll items := by
  rw [debugAll_eq_map, debugAll_eq_map]
  exact map_replaced fun v hv => (h v hv).debug

/-- A list of replicas is one of the list. -/
lemma list : Replica objects (.list items) (.list (items.map w)) where
  clone c hc := by
    rw [Cloner.cloneValue, cloneAll h c hc]
    rfl
  observe order := by rw [observeBy, observeBy, observeAllBy h]
  display := by rw [Value.display, Value.display, displayAll h]
  debug := by rw [Value.debug, Value.debug, debugAll h]

/-- A set of replicas is one of the set. -/
lemma set : Replica objects (.set items) (.set (items.map w)) where
  clone c hc := by
    rw [Cloner.cloneValue, cloneAll h c hc]
    rfl
  observe order := by rw [observeBy, observeBy, observeAllBy h]
  display := by rw [Value.display, Value.display, displayAll h]
  debug := by rw [Value.debug, Value.debug, debugAll h]

end

/-- A map of replicas is one of the map. -/
lemma map {entries : List (Value × Value)} (hkeys : ∀ e ∈ entries, Replica objects e.1 (w e.1))
    (hvalues : ∀ e ∈ entries, Replica objects e.2 (w e.2)) :
    Replica objects (.map entries) (.map (entries.map fun e => (w e.1, w e.2))) where
  clone c hc := by
    have hentries : c.cloneEntries entries = .ok (entries.map fun e => (w e.1, w e.2)) := by
      rw [Cloner.cloneEntries_eq_mapM, mapM_eq_ok_iff, forall₂_map_right_iff, forall₂_same]
      intro e he
      rw [(hkeys e he).clone c hc, (hvalues e he).clone c hc]
      rfl
    rw [Cloner.cloneValue, hentries]
    rfl
  observe order := by
    rw [observeBy, observeBy, observeEntriesBy_eq_map, observeEntriesBy_eq_map]
    refine congrArg _ (map_replaced fun e he => ?_)
    rw [(hkeys e he).observe order, (hvalues e he).observe order]
  display := by
    rw [Value.display, Value.display, displayEntries_eq_map, displayEntries_eq_map,
      map_replaced fun e he => ?_]
    rw [(hkeys e he).display, (hvalues e he).display]
  debug := by
    rw [Value.debug, Value.debug, debugEntries_eq_map, debugEntries_eq_map,
      map_replaced fun e he => ?_]
    rw [(hkeys e he).debug, (hvalues e he).debug]

/-- An optional value that is there is copied with what is inside. -/
lemma present {v u : Value} (h : Replica objects v u) :
    Replica objects (.optional (some v)) (.optional (some u)) where
  clone c hc := by
    rw [Cloner.cloneValue, h.clone c hc]
    rfl
  observe order := by rw [observeBy, observeBy, h.observe order]
  display := by rw [Value.display, Value.display, h.display]
  debug := by rw [Value.debug, Value.debug, h.debug]

section

variable {fields : List (String × Value)} (h : ∀ f ∈ fields, Replica objects f.2 (w f.2))

include h

/-- What a bean with any properties shows is what its fields show, whatever types are declared. -/
lemma bean {kind kind' : BeanKind} (htype : kind'.type = kind.type)
    (hslots : ∀ {α : Type} (images : List (String × α)) (lift : Scalar → α),
      kind'.slots (fields.map fun f => (f.1, w f.2)) images lift = kind.slots fields images lift)
    (hclone : ∀ c : Cloner, (objects → c.tier = .collections) →
      Cloner.rebuild kind fields (c.cloneFields fields) =
        .ok ⟨kind', fields.map fun f => (f.1, w f.2)⟩) :
    Replica objects (.bean ⟨kind, fields⟩) (.bean ⟨kind', fields.map fun f => (f.1, w f.2)⟩) := by
  have hdisplay : (Value.bean ⟨kind', fields.map fun f => (f.1, w f.2)⟩).display =
      (Value.bean ⟨kind, fields⟩).display := by
    rw [Value.display, Value.display, htype, hslots, displayFields_eq_map, displayFields_eq_map,
      map_replaced fun f hf => ?_]
    rw [(h f hf).display]
  refine ⟨fun c hc => ?_, fun order => ?_, hdisplay, ?_⟩
  · rw [Cloner.cloneValue, hclone c hc]
    rfl
  · rw [observeBy, observeBy, htype, hslots, observeFieldsBy_eq_map, observeFieldsBy_eq_map,
      map_replaced fun f hf => ?_]
    rw [(h f hf).observe order]
  · rw [Value.debug, Value.debug, hdisplay]

/-- The fields can be copied. -/
lemma outcome (c : Cloner) (hc : objects → c.tier = .collections) : ∀ f ∈ fields,
    Outcome BeanError.IsRefusal (c.cloneValue f.2) True (· = w f.2) := by
  intro f hf
  rw [(h f hf).clone c hc]
  exact .ok rfl

/-- A bean with any properties is copied without the declared types. -/
lemma flexible (types : List (String × ResolvedType)) (hnames : (fields.map Prod.fst).Nodup) :
    Replica objects (.bean ⟨.flexible types, fields⟩)
      (.bean ⟨.flexible [], fields.map fun f => (f.1, w f.2)⟩) := by
  refine bean h rfl (fun _ _ => rfl) fun c hc => ?_
  rw [Cloner.cloneFields_eq_map]
  have hrebuilt := Cloner.rebuild_flexible_outcome (outcome h c hc) types hnames
  obtain ⟨b, hb, rfl⟩ := hrebuilt.of_good fun _ _ => trivial
  exact hb

/-- A bean with any properties in the order of their names is copied. -/
lemma sorted (hnames : (fields.map Prod.fst).Pairwise (· < ·)) :
    Replica objects (.bean ⟨.sorted, fields⟩)
      (.bean ⟨.sorted, fields.map fun f => (f.1, w f.2)⟩) := by
  refine bean h rfl (fun _ _ => rfl) fun c hc => ?_
  rw [Cloner.cloneFields_eq_map]
  have hrebuilt := Cloner.rebuild_sorted_outcome (outcome h c hc) hnames
  obtain ⟨b, hb, rfl⟩ := hrebuilt.of_good fun _ _ => trivial
  exact hb

end

end Replica

/-! ## Copies -/

variable {objects : Prop} {v : Value}

/-- **Dynamic data can be copied**, and the copy shows the same.

The induction is on the value. Objects are shared, so an object is its own copy, whatever it holds. -/
theorem Dynamic.exists_replica (hv : v.Dynamic objects) : ∃ w, Replica objects v w := by
  -- one function gives the copies of all values that have one, of keys as of values
  have hchoice (v : Value) : ∃ w, (∃ u, Replica objects v u) → Replica objects v w := by
    by_cases h : ∃ u, Replica objects v u
    · obtain ⟨u, hu⟩ := h
      exact ⟨u, fun _ => hu⟩
    · exact ⟨v, fun h' => absurd h' h⟩
  choose w hw using hchoice
  have hshared (v : Value) (hclone : ∀ c : Cloner, c.tier = .collections → c.cloneValue v = .ok v)
      (hobjects : objects) : ∃ w, Replica objects v w :=
    ⟨v, fun c hc => hclone c (hc hobjects), fun _ => rfl, rfl, rfl⟩
  induction hv with
  | scalar s => exact ⟨.scalar s, fun _ _ => rfl, fun _ => rfl, rfl, rfl⟩
  | absent => exact ⟨.optional none, fun _ _ => rfl, fun _ => rfl, rfl, rfl⟩
  | list _ ih => exact ⟨_, .list fun v hv => hw v (ih v hv)⟩
  | set _ ih => exact ⟨_, .set fun v hv => hw v (ih v hv)⟩
  | map _ _ ihk ihv => exact ⟨_, .map (fun e he => hw e.1 (ihk e he)) fun e he => hw e.2 (ihv e he)⟩
  | present _ ih =>
    obtain ⟨u, hu⟩ := ih
    exact ⟨_, hu.present⟩
  | flexible hnames _ ih => exact ⟨_, .flexible (fun f hf => hw f.2 (ih f hf)) _ hnames⟩
  | sorted hnames _ ih => exact ⟨_, .sorted (fun f hf => hw f.2 (ih f hf)) hnames⟩
  | thing h hi t => exact hshared _ (fun c hc => Cloner.clone_thing hc _ t) h
  | object h hi g => exact hshared _ (fun c hc => Cloner.clone_grid hc _ g) h
  | grid h i _ _ => exact hshared _ (fun c hc => Cloner.clone_grid hc i _) h

/-- A bean that shows all its fields is equal to itself if they are. -/
lemma same_self_of_fields {kind : BeanKind} {fields : List (String × Value)}
    (hslots : Bean.slots ⟨kind, fields⟩ = fields.map fun f => Slot.shown f.1 f.2)
    (hnames : (fields.map Prod.fst).Nodup) (h : ∀ f ∈ fields, f.2.same f.2 = true) :
    (Value.bean ⟨kind, fields⟩).same (.bean ⟨kind, fields⟩) = true := by
  have hnodup : ((fields.map fun f => Slot.shown f.1 f.2.observe).map Slot.name).Nodup := by
    rw [map_map]
    exact hnames
  rw [same, observe_bean, hslots, map_map]
  refine (Observation.same_bean_self_iff hnodup).mpr ⟨fun n hn => ?_, fun n a ha => ?_⟩
  · obtain ⟨f, -, hf⟩ := mem_map.mp hn
    cases hf
  · obtain ⟨f, hf, heq⟩ := mem_map.mp ha
    cases heq
    exact h f hf

/-- **Dynamic data is equal to itself**: all its properties can be read. -/
theorem Dynamic.same_self (hv : v.Dynamic objects) : v.same v = true := by
  induction hv with
  | scalar s => exact decide_eq_true rfl
  | absent => rfl
  | list _ ih => exact same_list_self_iff.mpr ih
  | set _ ih => exact same_set_self_iff.mpr ih
  | map _ _ ihk ihv => exact same_map_self_iff.mpr fun e he => ⟨ihk e he, ihv e he⟩
  | present _ ih => exact ih
  | flexible hnames _ ih => exact same_self_of_fields rfl hnames ih
  | sorted hnames _ ih => exact same_self_of_fields rfl hnames.nodup ih
  | thing h hi t => exact decide_eq_true ⟨rfl, hi⟩
  | object h hi g => exact same_grid_self_iff.mpr (.inl hi)
  | grid h i _ ih => exact same_grid_self_iff.mpr (.inr ih)

/-- **The copy of dynamic data is exact.** Copies that share objects can be made; the copy is equal to
the value, stands at the same place in every order of objects, and has the same digest and texts.
Without objects, all cloners make the same copy. -/
theorem clone_dynamic (hv : v.Dynamic True) :
    ∃ w, (∀ c : Cloner, c.tier = .collections → c.cloneValue v = .ok w) ∧
      w.same v = true ∧ w.compare v = .eq ∧
      (∀ (order : Identity → Identity → Ordering) [TransCmp order], w.compareBy order v = .eq) ∧
      w.digest = v.digest ∧ w.display = v.display ∧ w.debug = v.debug ∧
      (v.Dynamic False → ∀ c : Cloner, c.cloneValue v = .ok w) := by
  obtain ⟨w, hw⟩ := hv.exists_replica
  have hclone (c : Cloner) (hc : c.tier = .collections) : c.cloneValue v = .ok w :=
    hw.clone c fun _ => hc
  have hobserve : w.observe = v.observe := hw.observe _
  have hcompare (order : Identity → Identity → Ordering) [TransCmp order] :
      w.compareBy order v = .eq := by
    have hself : v.compareBy order v = .eq := ReflCmp.compare_self
    rw [compareBy, hw.observe order]
    exact hself
  refine ⟨w, hclone, ?_, hcompare _, fun order _ => hcompare order, ?_, hw.display, hw.debug, ?_⟩
  · rw [same, hobserve]
    exact hv.same_self
  · rw [digest, digest, feed, feed, hobserve]
  · intro hplain c
    obtain ⟨u, hu⟩ := hplain.exists_replica
    have hshared : Except.ok u = .ok w :=
      (hu.clone ⟨.collections, []⟩ False.elim).symm.trans (hclone _ rfl)
    exact (hu.clone c False.elim).trans hshared

/-- A bean with any properties holds a set, in which there are a map and a bean that is one of the keys
of the map. All cloners make the same copy. -/
theorem clone_dynamic_nested :
    let inner : Value := .bean ⟨.sorted, [("a", .list [.int 1]), ("b", .optional (some (.text "x")))]⟩
    let v : Value := .bean ⟨.flexible [("pairs", .mk (.declared "Set" false [] []) [])],
      [("pairs", .set [.map [(inner, .null), (.int 2, .optional none)], inner]), ("at", .char 'c')]⟩
    v.Dynamic False ∧ v.Dynamic True ∧ ∃ w, (∀ c : Cloner, c.cloneValue v = .ok w) ∧
      w.same v = true ∧ w.compare v = .eq ∧ w.digest = v.digest ∧ w.display = v.display := by
  intro inner v
  have hinner (objects : Prop) : inner.Dynamic objects := by
    refine .sorted (by decide) (forall_mem_cons.mpr ⟨?_, forall_mem_singleton.mpr ?_⟩)
    · exact .list (forall_mem_singleton.mpr (.scalar _))
    · exact .present (.scalar _)
  have hv (objects : Prop) : v.Dynamic objects := by
    have hpairs : (Value.map [(inner, .null), (.int 2, .optional none)]).Dynamic objects :=
      .map (forall_mem_cons.mpr ⟨hinner objects, forall_mem_singleton.mpr (.scalar _)⟩)
        (forall_mem_cons.mpr ⟨.scalar _, forall_mem_singleton.mpr .absent⟩)
    refine .flexible (by decide) (forall_mem_cons.mpr ⟨?_, forall_mem_singleton.mpr (.scalar _)⟩)
    exact .set (forall_mem_cons.mpr ⟨hpairs, forall_mem_singleton.mpr (hinner objects)⟩)
  obtain ⟨w, -, hsame, hcompare, -, hdigest, hdisplay, -, hall⟩ := clone_dynamic (hv True)
  exact ⟨hv False, hv True, w, hall (hv False), hsame, hcompare, hdigest, hdisplay⟩

end Value

end Beans
