import Mathlib.Tactic.Common
import Beans.Bean.Iterate
import Beans.Proofs.Bean.Legible

/-!
# Walks through beans

A walk keeps the beans that are still to be visited and puts those inside a bean in front of them
when it visits the bean. What is still to come is then the walk through each pending bean in turn,
and visiting one takes the first of it away. So the walk is the preorder of the tree of beans: a
bean is visited once for each place where it stands, and places are visited in their order.

## Main definitions

* `Beans.Bean.found` — the beans that are found by reading the properties of a bean.
* `Beans.Bean.at?` — the bean at a place inside a bean.
* `Beans.BeanWalk.toCome` — the beans that a walk has still to visit.

## Main results

* `Beans.Bean.allBeans_eq` — the beans of a walk by recursion.
* `Beans.BeanWalk.take_eq` — a run of a walk takes the first of what is to come.
* `Beans.Bean.exists_occurrences` — the places inside a bean, with the beans there in preorder.
* `Beans.BeanWalk.walk_preorder` — what a walk yields.
-/

set_option autoImplicit false

open List

namespace Beans

/-! ## Beans in values -/

namespace Value

lemma beansOfAll_eq_flatMap (items : List Value) : beansOfAll items = items.flatMap beans := by
  induction items with
  | nil => rfl
  | cons v items ih => rw [beansOfAll, ih, flatMap_cons]

lemma beansOfEntries_eq_flatMap (entries : List (Value × Value)) :
    beansOfEntries entries = entries.flatMap fun e => e.2.beans := by
  induction entries with
  | nil => rfl
  | cons e entries ih => rw [beansOfEntries, ih, flatMap_cons]

lemma allBeansOfFields_eq_map (fields : List (String × Value)) :
    allBeansOfFields fields = fields.map fun f => (f.1, f.2.allBeans) := by
  induction fields with
  | nil => rfl
  | cons f fields ih => rw [allBeansOfFields, ih, map_cons]

mutual

/-- All beans in a value are those inside each bean that is found in it. -/
theorem allBeans_eq_flatMap : ∀ v : Value, v.allBeans = v.beans.flatMap Bean.allBeans
  | bean b => by
    rw [beans, flatMap_singleton]
    rfl
  | optional none => rfl
  | optional (some v) => by rw [allBeans, beans, allBeans_eq_flatMap v]
  | list items => by rw [allBeans, beans, allBeansOfAll_eq_flatMap items]
  | set items => by rw [allBeans, beans, allBeansOfAll_eq_flatMap items]
  | map entries => by rw [allBeans, beans, allBeansOfEntries_eq_flatMap entries]
  | scalar _ => rfl
  | thing _ _ => rfl
  | grid _ _ => rfl

/-- So are all beans in several values. -/
theorem allBeansOfAll_eq_flatMap :
    ∀ vs : List Value, allBeansOfAll vs = (beansOfAll vs).flatMap Bean.allBeans
  | [] => rfl
  | v :: vs => by
    rw [allBeansOfAll, beansOfAll, flatMap_append, allBeans_eq_flatMap v,
      allBeansOfAll_eq_flatMap vs]

/-- So are all beans in the values of entries. -/
theorem allBeansOfEntries_eq_flatMap :
    ∀ es : List (Value × Value), allBeansOfEntries es = (beansOfEntries es).flatMap Bean.allBeans
  | [] => rfl
  | (_, v) :: es => by
    rw [allBeansOfEntries, beansOfEntries, flatMap_append, allBeans_eq_flatMap v,
      allBeansOfEntries_eq_flatMap es]

end

/-- The beans that are found in a lawful value are lawful. -/
lemma Lawful.of_mem_beans {v : Value} (hv : v.Lawful) {c : Bean} (hc : c ∈ v.beans) :
    (Value.bean c).Lawful := by
  induction hv with
  | list _ ih | set _ ih =>
    rw [beans, beansOfAll_eq_flatMap] at hc
    obtain ⟨v, hv, hc⟩ := mem_flatMap.mp hc
    exact ih v hv hc
  | map _ _ _ ih =>
    rw [beans, beansOfEntries_eq_flatMap] at hc
    obtain ⟨e, he, hc⟩ := mem_flatMap.mp hc
    exact ih e he hc
  | present _ ih => exact ih hc
  | bean hkind hfields =>
    obtain rfl := mem_singleton.mp hc
    exact .bean hkind hfields
  | scalar | absent | thing | grid => cases hc

end Value

/-! ## Beans in beans -/

namespace Bean

variable {b c root : Bean}

/-- The beans in the values that are read, property by property; what is not meant to be read, or
cannot be, holds none. -/
def found (b : Bean) : List Bean :=
  b.table.properties.flatMap fun p =>
    if p.style.isReadable then
      match p.get b with
      | .ok v => v.beans
      | .error _ => []
    else []

/-- A lawful bean shows what is read. -/
lemma children_eq_found (hb : (Value.bean b).Lawful) : b.children = b.found := by
  cases hb with | bean hkind _ =>
  rw [children, flatten, slots_eq_map hkind, found]
  generalize b.table.properties = properties
  induction properties with
  | nil => rfl
  | cons p properties ih =>
    rw [flatMap_cons, ← ih, map_cons, filterMap_cons, slotOf]
    cases p.style.isReadable
    · rfl
    · cases p.get b <;> rfl

/-- **The beans of a walk by recursion**: the bean, then those of the beans inside it, one by one.
-/
theorem allBeans_eq (b : Bean) : b.allBeans = b :: b.children.flatMap allBeans := by
  have hslots : b.kind.slots b.fields (Value.allBeansOfFields b.fields) (fun _ => []) =
      b.slots.map (Slot.map Value.allBeans) := by
    rw [Value.allBeansOfFields_eq_map]
    exact BeanKind.slots_map Value.allBeans b.kind b.fields b.fields Value.scalar
  have hvalues (slots : List (Slot Value)) :
      ((slots.map (Slot.map Value.allBeans)).filterMap Slot.value?).flatten =
        ((slots.filterMap Slot.shown?).flatMap fun e => e.2.beans).flatMap allBeans := by
    induction slots with
    | nil => rfl
    | cons s slots ih =>
      cases s with
      | hidden n => exact ih
      | failed n => exact ih
      | shown n v =>
        have hv := Value.allBeans_eq_flatMap v
        simp only [map_cons, Slot.map, filterMap_cons, Slot.value?, Slot.shown?, flatten_cons,
          flatMap_cons, flatMap_append, ih, hv]
  change b :: ((b.kind.slots b.fields (Value.allBeansOfFields b.fields)
    fun _ => []).filterMap Slot.value?).flatten = _
  rw [hslots, hvalues]
  rfl

/-- What is inside a bean has fewer beans in it. -/
lemma length_allBeans_lt (hc : c ∈ b.children) : c.allBeans.length < b.allBeans.length := by
  have hsub : c.allBeans <+ b.children.flatMap allBeans :=
    sublist_flatten_of_mem (mem_map_of_mem hc)
  rw [allBeans_eq b, length_cons]
  exact Nat.lt_succ_of_le hsub.length_le

/-- What holds of a bean if it holds of those inside it, holds of all beans. -/
theorem children_induction {motive : Bean → Prop}
    (step : ∀ b : Bean, (∀ c ∈ b.children, motive c) → motive b) (b : Bean) : motive b :=
  step b fun c hc =>
    have := length_allBeans_lt hc
    children_induction step c
termination_by b.allBeans.length

/-- What is inside a lawful bean is lawful. -/
lemma lawful_of_mem_children (hb : (Value.bean b).Lawful) (hc : c ∈ b.children) :
    (Value.bean c).Lawful := by
  cases hb with | bean _ hfields =>
  obtain ⟨⟨n, v⟩, hv, hc⟩ := mem_flatMap.mp hc
  obtain ⟨s, hs, hshown⟩ := mem_filterMap.mp hv
  cases s with
  | hidden m => cases hshown
  | failed m => cases hshown
  | shown m w =>
    obtain ⟨rfl, rfl⟩ := Prod.mk.inj (Option.some.inj hshown)
    rcases shown_of_slots hs with ⟨s, rfl⟩ | ⟨f, hf, rfl⟩
    · cases hc
    · exact (hfields f hf).of_mem_beans hc

/-- So are all beans of its walk. -/
lemma lawful_of_mem_allBeans (hb : (Value.bean b).Lawful) (hc : c ∈ b.allBeans) :
    (Value.bean c).Lawful := by
  induction b using children_induction with
  | step b ih =>
    rw [allBeans_eq] at hc
    rcases mem_cons.mp hc with rfl | hc
    · exact hb
    · obtain ⟨d, hd, hc⟩ := mem_flatMap.mp hc
      exact ih d hd (lawful_of_mem_children hb hd) hc

/-! ## Places -/

/-- The bean at a place: the numbers lead from each bean to one of those that are found in it. -/
def at? (b : Bean) : List Nat → Option Bean
  | [] => some b
  | i :: place => b.found[i]?.bind fun c => c.at? place

/-- The places inside several beans, numbered from `start`, in their order: those inside one bean
come before those inside the next.

**Proof sketch.** Induction on the beans. The places inside the first one get `start` in front;
those inside the others are numbered from the next number on. -/
lemma exists_occurrences_among {bs : List Bean}
    (h : ∀ b ∈ bs, ∃ occurrences : List (List Nat × Bean),
      occurrences.map Prod.snd = b.allBeans ∧ (occurrences.map Prod.fst).Pairwise (· < ·) ∧
        ∀ place c, (place, c) ∈ occurrences ↔ b.at? place = some c) (start : Nat) :
    ∃ occurrences : List (List Nat × Bean),
      occurrences.map Prod.snd = bs.flatMap allBeans ∧
        (occurrences.map Prod.fst).Pairwise (· < ·) ∧
        ∀ place c, (place, c) ∈ occurrences ↔
          ∃ i rest, place = (start + i) :: rest ∧ (bs[i]?.bind fun b => b.at? rest) = some c := by
  induction bs generalizing start with
  | nil => exact ⟨[], rfl, .nil, by simp⟩
  | cons b bs ih =>
    obtain ⟨hb, hbs⟩ := forall_mem_cons.mp h
    obtain ⟨first, hfirst, hfirstOrder, hfirstPlaces⟩ := hb
    obtain ⟨others, hothers, hothersOrder, hothersPlaces⟩ := ih hbs (start + 1)
    refine ⟨first.map (fun o => (start :: o.1, o.2)) ++ others, ?_, ?_, fun place c => ?_⟩
    · rw [map_append, map_map, flatMap_cons, hothers, ← hfirst]
      rfl
    · rw [map_append, map_map, pairwise_append]
      refine ⟨?_, hothersOrder, fun place hplace other hother => ?_⟩
      · rw [pairwise_map] at hfirstOrder ⊢
        exact hfirstOrder.imp fun hlt => .cons hlt
      · obtain ⟨o, -, rfl⟩ := mem_map.mp hplace
        obtain ⟨⟨_, c⟩, hc, rfl⟩ := mem_map.mp hother
        obtain ⟨i, rest, rfl, -⟩ := (hothersPlaces _ c).mp hc
        exact .rel (by omega)
    · rw [mem_append, hothersPlaces]
      constructor
      · rintro (hmem | ⟨i, rest, rfl, hat⟩)
        · obtain ⟨o, ho, heq⟩ := mem_map.mp hmem
          obtain ⟨rfl, rfl⟩ := Prod.mk.inj heq
          exact ⟨0, o.1, rfl, (hfirstPlaces o.1 o.2).mp ho⟩
        · exact ⟨i + 1, rest, by rw [Nat.add_right_comm, Nat.add_assoc], hat⟩
      · rintro ⟨i, rest, rfl, hat⟩
        cases i with
        | zero => exact .inl (mem_map.mpr ⟨(rest, c), (hfirstPlaces rest c).mpr hat, rfl⟩)
        | succ i => exact .inr ⟨i, rest, by rw [Nat.add_right_comm, Nat.add_assoc], hat⟩

/-- **The places inside a bean, with the beans there in preorder.** In the order of places, one
comes before all that go on from it, and these before the next one beside it. -/
theorem exists_occurrences (hb : (Value.bean b).Lawful) :
    ∃ occurrences : List (List Nat × Bean),
      occurrences.map Prod.snd = b.allBeans ∧ (occurrences.map Prod.fst).Pairwise (· < ·) ∧
        ∀ place c, (place, c) ∈ occurrences ↔ b.at? place = some c := by
  induction b using children_induction with
  | step b ih =>
    obtain ⟨inside, hinside, horder, hplaces⟩ := exists_occurrences_among
      (fun c hc => ih c hc (lawful_of_mem_children hb hc)) 0
    refine ⟨([], b) :: inside, ?_, ?_, fun place c => ?_⟩
    · rw [map_cons, hinside, ← allBeans_eq]
    · refine pairwise_cons.mpr ⟨fun place hplace => ?_, horder⟩
      obtain ⟨⟨_, c⟩, hc, rfl⟩ := mem_map.mp hplace
      obtain ⟨i, rest, rfl, -⟩ := (hplaces _ c).mp hc
      exact .nil
    · rw [mem_cons, hplaces, children_eq_found hb]
      cases place with
      | nil => simp [at?, eq_comm]
      | cons i rest => simp [at?]

end Bean

/-! ## Walks -/

namespace BeanWalk

variable {w w' : BeanWalk} {b : Bean}

/-- The beans that a walk has still to visit. -/
def toCome (w : BeanWalk) : List Bean := w.pending.flatMap Bean.allBeans

/-- The walk after some visits; one that has come to its end stays there. -/
def after : Nat → BeanWalk → BeanWalk
  | 0, w => w
  | n + 1, w => match w.next? with
    | none => w
    | some (_, w') => w'.after n

/-- A walk that yields nothing has come to its end. -/
lemma toCome_of_next?_eq_none (h : w.next? = none) : w.toCome = [] := by
  obtain ⟨pending⟩ := w
  cases pending with
  | nil => rfl
  | cons b pending => cases h

/-- **A visit takes the first bean of what is to come.** -/
theorem toCome_of_next? (h : w.next? = some (b, w')) : w.toCome = b :: w'.toCome := by
  obtain ⟨pending⟩ := w
  cases pending with
  | nil => cases h
  | cons c pending =>
    obtain ⟨rfl, rfl⟩ := Prod.mk.inj (Option.some.inj h)
    rw [toCome, toCome, flatMap_cons, Bean.allBeans_eq, flatMap_append, cons_append]

/-- **A run of a walk takes the first of what is to come.** -/
theorem take_eq (limit : Nat) (w : BeanWalk) : w.take limit = w.toCome.take limit := by
  induction limit generalizing w with
  | zero => rfl
  | succ limit ih =>
    rw [take]
    cases hnext : w.next? with
    | none => rw [toCome_of_next?_eq_none hnext, take_nil]
    | some step =>
      obtain ⟨b, w'⟩ := step
      rw [toCome_of_next? hnext, take_succ_cons]
      exact congrArg (b :: ·) (ih w')

/-- What is to come after some visits. -/
lemma toCome_after (n : Nat) (w : BeanWalk) : (w.after n).toCome = w.toCome.drop n := by
  induction n generalizing w with
  | zero => rfl
  | succ n ih =>
    rw [after]
    cases hnext : w.next? with
    | none => rw [toCome_of_next?_eq_none hnext, drop_nil]
    | some step =>
      obtain ⟨b, w'⟩ := step
      rw [toCome_of_next? hnext, drop_succ_cons]
      exact ih w'

/-- The bean that is visited next. -/
lemma next?_map_fst (w : BeanWalk) : w.next?.map Prod.fst = w.toCome.head? := by
  cases hnext : w.next? with
  | none => rw [toCome_of_next?_eq_none hnext]; rfl
  | some step => rw [toCome_of_next? hnext]; rfl

/-- What is to come at the start are all beans inside the root. -/
lemma toCome_start (root : Bean) : (start root).toCome = root.allBeans := flatMap_singleton ..

/-- **A walk yields the root and all beans inside it in preorder, and then nothing more.** Every
bean that is visited is followed by the visits of the beans inside it. In a lawful root, where the
properties of a bean have different names, these are the beans that are found by reading them, and
each place inside the root is visited once, in the order of places. -/
theorem walk_preorder (root : Bean) :
    (∀ n, ((start root).after n).next?.map Prod.fst = root.allBeans[n]?) ∧
      root.walk = root.allBeans ∧
      (∀ b : Bean, b.allBeans = b :: b.children.flatMap Bean.allBeans) ∧
      ((Value.bean root).Lawful →
        (∀ b ∈ root.allBeans, b.children = b.found) ∧
          ∃ occurrences : List (List Nat × Bean),
            occurrences.map Prod.snd = root.allBeans ∧
              (occurrences.map Prod.fst).Pairwise (· < ·) ∧
              ∀ place b, (place, b) ∈ occurrences ↔ root.at? place = some b) := by
  refine ⟨fun n => ?_, ?_, Bean.allBeans_eq, fun hroot => ⟨fun b hb => ?_, ?_⟩⟩
  · rw [next?_map_fst, toCome_after, toCome_start, head?_drop]
  · rw [Bean.walk, take_eq, toCome_start, take_length]
  · exact Bean.children_eq_found (Bean.lawful_of_mem_allBeans hroot hb)
  · exact Bean.exists_occurrences hroot

/-- Beans in a list, one of them optional, and in the values of a map, where one of them stands
again. The bean that is a key of the map is not visited. -/
theorem walk_preorder_nested :
    let named (name : String) (fields : List (String × Value)) : Bean :=
      ⟨.flexible [], ("name", .text name) :: fields⟩
    let leaf := named "leaf" []
    let left := named "left" [("child", .bean leaf)]
    let right : Bean := ⟨.sorted, []⟩
    let root := named "root" [("children", .list [.bean left, .optional (some (.bean right))]),
      ("table", .map [(.bean (named "key" []), .set [.bean left])])]
    (Value.bean root).Lawful ∧ root.walk = [root, left, leaf, right, left, leaf] ∧
      ((start root).after 3).next?.map Prod.fst = some right ∧
      ((start root).after 6).next?.map Prod.fst = none ∧
      left.allBeans = left :: left.children.flatMap Bean.allBeans ∧ left.children = left.found ∧
      ∃ occurrences : List (List Nat × Bean),
        occurrences.map Prod.snd = root.allBeans ∧
          (occurrences.map Prod.fst).Pairwise (· < ·) ∧
          ∀ place b, (place, b) ∈ occurrences ↔ root.at? place = some b := by
  intro named leaf left right root
  have htext (s : String) : (Value.text s).Lawful := .scalar _
  have hleaf : (Value.bean leaf).Lawful :=
    .bean (b := leaf) (by simp [leaf, named, BeanKind.Lawful]) (forall_mem_singleton.mpr (htext _))
  have hkey : (Value.bean (named "key" [])).Lawful :=
    .bean (b := named "key" []) (by simp [named, BeanKind.Lawful])
      (forall_mem_singleton.mpr (htext _))
  have hleft : (Value.bean left).Lawful :=
    .bean (b := left) (by simp [left, named, BeanKind.Lawful])
      (forall_mem_cons.mpr ⟨htext _, forall_mem_singleton.mpr hleaf⟩)
  have hright : (Value.bean right).Lawful :=
    .bean (b := right) (by simp [right, BeanKind.Lawful]) (forall_mem_nil _)
  have hroot : (Value.bean root).Lawful := by
    refine .bean (b := root) (by simp [root, named, BeanKind.Lawful])
      (forall_mem_cons.mpr ⟨htext _, forall_mem_cons.mpr ⟨?_, forall_mem_singleton.mpr ?_⟩⟩)
    · exact .list (forall_mem_cons.mpr ⟨hleft, forall_mem_singleton.mpr (.present hright)⟩)
    · exact .map (forall_mem_singleton.mpr hkey)
        (forall_mem_singleton.mpr (.set (forall_mem_singleton.mpr hleft)))
  obtain ⟨hcalls, hwalk, hinside, hlawful⟩ := walk_preorder root
  obtain ⟨hfound, hplaces⟩ := hlawful hroot
  have hall : root.allBeans = [root, left, leaf, right, left, leaf] := rfl
  refine ⟨hroot, hwalk.trans hall, ?_, ?_, hinside left, hfound left ?_, hplaces⟩
  · rw [hcalls, hall]
    rfl
  · rw [hcalls, hall]
    rfl
  · rw [hall]
    exact mem_cons_of_mem _ mem_cons_self

end BeanWalk

end Beans
