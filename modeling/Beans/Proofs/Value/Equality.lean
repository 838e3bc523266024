import Mathlib.Tactic.Common
import Beans.Bean.Compare
import Beans.Proofs.Order.Matched
import Beans.Proofs.Value.Sound

/-!
# Equality of observations

Equality is symmetric and transitive, and equal observations have the same bytes. It is not
reflexive: a property that cannot be read equals nothing.

Equality goes down into sequences, and matches the slots of beans by name. Matching by name looks at
the two beans in turn; but if the names in each are different, it pairs all slots of one with all
slots of the other, which no longer depends on a side. With that one step of equality is a relation
built from pointwise relations and permutations (`Alike`), and each law is an induction over one of
the two observations, step by step.

## Main definitions

* `Beans.Observation.Alike` — one step of equality, for a given relation of what is inside.
* `Beans.Observation.SlotsAlike` — the slots of two beans are alike in some order.

## Main results

* `Beans.Observation.matchesSlots_iff` — matching slots by name pairs all of them.
* `Beans.Observation.same_iff` — equality is compared step by step.
* `Beans.Observation.same_symm`, `Beans.Observation.same_trans` — equality is symmetric and
  transitive.
* `Beans.Observation.feed_eq_of_same` — equal observations have the same bytes.
-/

set_option autoImplicit false

namespace Beans

open Digest Beans.Order

namespace Observation

/-! ## One step of equality -/

/-- Two slots of one name that both hide their values, or show values that are related. -/
inductive SlotAlike (R : Observation → Observation → Prop) :
    Slot Observation → Slot Observation → Prop
  | hidden (n : String) : SlotAlike R (.hidden n) (.hidden n)
  | shown (n : String) {a b : Observation} (hab : R a b) : SlotAlike R (.shown n a) (.shown n b)

/-- The slots of two beans, as many in both, are alike in some order. -/
def SlotsAlike (R : Observation → Observation → Prop) (as bs : List (Slot Observation)) : Prop :=
  ∃ cs, cs.Perm bs ∧ List.Forall₂ (SlotAlike R) as cs

/-- One step of comparing two observations, with a relation for what is inside them. -/
inductive Alike (R : Observation → Observation → Prop) : Observation → Observation → Prop
  | scalar (s : Scalar) : Alike R (.scalar s) (.scalar s)
  | list {as bs : List Observation} (h : List.Forall₂ R as bs) : Alike R (.list as) (.list bs)
  | set {as bs : List Observation} (h : List.Forall₂ R as bs) : Alike R (.set as) (.set bs)
  | map {ks vs ks' vs' : List Observation} (hks : List.Forall₂ R ks ks')
      (hvs : List.Forall₂ R vs vs') : Alike R (.map ks vs) (.map ks' vs')
  | absent : Alike R .absent .absent
  | present {a b : Observation} (h : R a b) : Alike R (.present a) (.present b)
  | bean {t t' : BeanType} {as bs : List (Slot Observation)} (ht : t.key = t'.key)
      (hslots : SlotsAlike R as bs) : Alike R (.bean t as) (.bean t' bs)
  | thing {i : Identity} (hi : i ≠ .made) : Alike R (.thing i) (.thing i)
  | object {i : Identity} (hi : i ≠ .made) (g g' : Grid Observation) :
      Alike R (.grid i g) (.grid i g')
  | grid {i j : Identity} {rows columns : Nat} {as bs : List ((Nat × Nat) × Observation)}
      (h : List.Forall₂ (fun a b => a.1 = b.1 ∧ R a.2 b.2) as bs) :
      Alike R (.grid i ⟨rows, columns, as⟩) (.grid j ⟨rows, columns, bs⟩)

/-- Sequences are equal if they are item by item. -/
lemma sameAll_iff {as bs : List Observation} :
    sameAll as bs = true ↔ List.Forall₂ (fun a b => a.same b = true) as bs := by
  induction as generalizing bs with
  | nil => cases bs <;> simp [sameAll]
  | cons a as ih => cases bs <;> simp [sameAll, ih]

/-- Lists of cells are equal if they are cell by cell. -/
lemma sameCells_iff {as bs : List ((Nat × Nat) × Observation)} :
    sameCells as bs = true ↔
      List.Forall₂ (fun a b => a.1 = b.1 ∧ a.2.same b.2 = true) as bs := by
  induction as generalizing bs with
  | nil => cases bs <;> simp [sameCells]
  | cons a as ih => cases bs <;> simp [sameCells, ih]

/-- Whether two slots of one name match. -/
def slotMatches : Slot Observation → Slot Observation → Bool
  | .hidden _, .hidden _ => true
  | .shown _ a, .shown _ b => a.same b
  | _, _ => false

/-- Slots are matched one by one, each with the first one of its name. -/
lemma matchesSlots_eq_all (as bs : List (Slot Observation)) :
    matchesSlots as bs =
      as.all fun s => (bs.find? fun t => t.name == s.name).any (slotMatches s) := by
  induction as with
  | nil => rfl
  | cons s as ih =>
    rw [List.all_cons, ← ih]
    cases s with
    | hidden n =>
      change _ = ((bs.find? fun t => t.name == n).any _ && _)
      rw [matchesSlots]
      generalize bs.find? _ = found
      rcases found with _ | (_ | _ | _) <;> rfl
    | failed n =>
      rw [matchesSlots]
      generalize bs.find? _ = found
      rcases found with _ | (_ | _ | _) <;> rfl
    | shown n a =>
      change _ = ((bs.find? fun t => t.name == n).any _ && _)
      rw [matchesSlots]
      generalize bs.find? _ = found
      rcases found with _ | (_ | _ | _) <;> rfl

/-- Slots of one name that match are alike. -/
lemma slotAlike_iff {s t : Slot Observation} :
    SlotAlike (fun a b => a.same b = true) s t ↔ t.name = s.name ∧ slotMatches s t = true := by
  constructor
  · rintro (n | ⟨n, h⟩)
    · exact ⟨rfl, rfl⟩
    · exact ⟨rfl, h⟩
  · rintro ⟨hname, hmatch⟩
    cases s <;> cases t <;> cases hname <;>
      first | exact .hidden _ | exact .shown _ hmatch | cases hmatch

/-- A slot matches the one that is found for it if it is alike to some slot. -/
lemma any_find?_iff {s : Slot Observation} {bs : List (Slot Observation)}
    (hbs : (bs.map Slot.name).Nodup) :
    (bs.find? fun t => t.name == s.name).any (slotMatches s) = true ↔
      ∃ t ∈ bs, SlotAlike (fun a b => a.same b = true) s t := by
  constructor
  · intro h
    obtain ⟨t, hfound, hmatch⟩ := (Option.any_eq_true _ _).mp h
    have hname : t.name = s.name := by simpa using List.find?_some hfound
    exact ⟨t, List.mem_of_find?_eq_some hfound, slotAlike_iff.mpr ⟨hname, hmatch⟩⟩
  · rintro ⟨t, ht, hst⟩
    obtain ⟨hname, hmatch⟩ := slotAlike_iff.mp hst
    rw [← hname, find?_name_of_nodup hbs ht]
    exact hmatch

/-- **Slots that are looked up by name are alike in some order.** -/
theorem matchesSlots_iff {as bs : List (Slot Observation)} (has : (as.map Slot.name).Nodup)
    (hbs : (bs.map Slot.name).Nodup) :
    (as.length == bs.length && matchesSlots as bs) = true ↔
      SlotsAlike (fun a b => a.same b = true) as bs := by
  have hmatched : SlotsAlike (fun a b => a.same b = true) as bs ↔ as.length = bs.length ∧
      ∀ s ∈ as, ∃ t ∈ bs, SlotAlike (fun a b => a.same b = true) s t :=
    matched_iff_exists has fun s _ t _ hst => (slotAlike_iff.mp hst).1.symm
  rw [hmatched, matchesSlots_eq_all, Bool.and_eq_true, beq_iff_eq, List.all_eq_true]
  exact and_congr_right fun _ => forall₂_congr fun s _ => any_find?_iff hbs

/-- The slots of a sound bean have different names. -/
lemma Sound.nodup {grids : Identity → Grid Observation} {t : BeanType}
    {slots : List (Slot Observation)} (h : Observation.Sound grids (.bean t slots)) :
    (slots.map Slot.name).Nodup := by
  cases h with
  | bean hnames _ => exact hnames

/-- **Equality is compared step by step.**

**Proof sketch.** By cases on both observations. Those of different kinds are never equal, and the
lists of parts are compared side by side. -/
theorem same_iff {grids : Identity → Grid Observation} {a b : Observation} (ha : a.Sound grids)
    (hb : b.Sound grids) :
    a.same b = true ↔ Alike (fun a b => a.same b = true) a b := by
  constructor
  · intro h
    cases a <;> cases b <;> try (cases h; done)
    case scalar.scalar s s' =>
      obtain rfl : s = s' := of_decide_eq_true h
      exact .scalar s
    case list.list => exact .list (sameAll_iff.mp h)
    case set.set => exact .set (sameAll_iff.mp h)
    case map.map =>
      obtain ⟨hks, hvs⟩ := Bool.and_eq_true_iff.mp h
      exact .map (sameAll_iff.mp hks) (sameAll_iff.mp hvs)
    case absent.absent => exact .absent
    case present.present => exact .present h
    case bean.bean t as t' bs =>
      rw [same, Bool.and_assoc, Bool.and_eq_true] at h
      exact .bean (eq_of_beq h.1) ((matchesSlots_iff ha.nodup hb.nodup).mp h.2)
    case thing.thing i j =>
      obtain ⟨rfl, hi⟩ := of_decide_eq_true h
      exact .thing hi
    case grid.grid i g j g' =>
      rcases Bool.or_eq_true_iff.mp h with h | h
      · obtain ⟨rfl, hi⟩ := of_decide_eq_true h
        exact .object hi g g'
      · obtain ⟨rows, columns, as⟩ := g
        obtain ⟨rows', columns', bs⟩ := g'
        obtain ⟨⟨hrows, hcolumns⟩, hcells⟩ : (rows = rows' ∧ columns = columns') ∧
          sameCells as bs = true := by simpa using h
        subst hrows hcolumns
        exact .grid (sameCells_iff.mp hcells)
  · rintro (_ | h | h | ⟨hks, hvs⟩ | _ | h | ⟨ht, hslots⟩ | hi | ⟨hi, g, g'⟩ | h)
    · simp [same]
    · exact sameAll_iff.mpr h
    · exact sameAll_iff.mpr h
    · exact Bool.and_eq_true_iff.mpr ⟨sameAll_iff.mpr hks, sameAll_iff.mpr hvs⟩
    · rfl
    · exact h
    · rw [same, Bool.and_assoc, Bool.and_eq_true]
      exact ⟨beq_iff_eq.mpr ht, (matchesSlots_iff ha.nodup hb.nodup).mpr hslots⟩
    · simp [same, Identity.isSame, hi]
    · simp [same, Identity.isSame, hi]
    · simp [same, sameCells_iff.mpr h]

/-! ## Bytes -/

/-- The digest of items whose order does not matter indeed does not depend on it. -/
lemma unordered_perm {as bs : List Feed} (h : as.Perm bs) : unordered as = unordered bs :=
  h.foldl_eq' (fun a _ b _ sum => by rw [UInt64.add_assoc, UInt64.add_comm (digest a), ← UInt64.add_assoc]) 0

lemma feedAll_eq_map (items : List Observation) : feedAll items = items.map feed := by
  induction items with
  | nil => rfl
  | cons a items ih => exact congrArg _ ih

lemma feedSlots_eq_map (slots : List (Slot Observation)) :
    feedSlots slots = slots.map (Slot.map feed) := by
  induction slots with
  | nil => rfl
  | cons s slots ih => cases s <;> exact congrArg _ ih

/-- Sequences of observations with the same bytes have the same bytes. -/
lemma feedAll_eq {as bs : List Observation} (h : List.Forall₂ (fun a b => a.feed = b.feed) as bs) :
    feedAll as = feedAll bs := by
  rw [feedAll_eq_map, feedAll_eq_map, map_eq_of_forall₂ h]

/-- Cells at the same places with the same bytes have the same bytes. -/
lemma feedCells_eq {as bs : List ((Nat × Nat) × Observation)}
    (h : List.Forall₂ (fun a b => a.1 = b.1 ∧ a.2.feed = b.2.feed) as bs) :
    feedCells as = feedCells bs := by
  induction h with
  | nil => rfl
  | cons hab _ ih => rw [feedCells, feedCells, hab.1, hab.2, ih]

/-! ## Slots -/

section

variable {R S T : Observation → Observation → Prop} {as bs cs : List (Slot Observation)}

/-- Alike slots stay alike when the relation for their values is turned round. -/
lemma SlotsAlike.symm_of_shown (h : SlotsAlike R as bs)
    (hsymm : ∀ n a, .shown n a ∈ as → ∀ m b, .shown m b ∈ bs → R a b → S b a) :
    SlotsAlike S bs as := by
  obtain ⟨cs, hperm, halike⟩ := h
  have hflip : List.Forall₂ (flip (SlotAlike S)) as cs := by
    refine forall₂_imp_of_mem halike fun s hs t ht hst => ?_
    cases hst with
    | hidden n => exact .hidden n
    | shown n hab => exact .shown n (hsymm n _ hs n _ (hperm.mem_iff.mp ht) hab)
  obtain ⟨ds, hds, hdperm⟩ := List.perm_comp_forall₂ hperm.symm hflip.flip
  exact ⟨ds, hdperm, hds⟩

/-- Alike slots compose when the relations for their values do. -/
lemma SlotsAlike.trans_of_shown (h : SlotsAlike R as bs) (h' : SlotsAlike S bs cs)
    (htrans : ∀ n a, .shown n a ∈ as → ∀ m b, .shown m b ∈ bs → ∀ k c, .shown k c ∈ cs →
      R a b → S b c → T a c) :
    SlotsAlike T as cs := by
  obtain ⟨bs', hbs, halike⟩ := h
  obtain ⟨cs', hcs, halike'⟩ := h'
  obtain ⟨ds, hds, hdperm⟩ := List.perm_comp_forall₂ hbs halike'
  refine ⟨ds, hdperm.trans hcs, forall₂_trans_of_mem halike hds fun s hs t ht u hu hst htu => ?_⟩
  cases hst with
  | hidden n =>
    cases htu with
    | hidden => exact .hidden n
  | shown n hab =>
    cases htu with
    | shown _ hbc =>
      exact .shown n (htrans n _ hs n _ (hbs.mem_iff.mp ht) n _
        ((hdperm.trans hcs).mem_iff.mp hu) hab hbc)

/-- Alike slots have one digest if related values have the same bytes. -/
lemma SlotsAlike.digest_eq (h : SlotsAlike R as bs)
    (hfeed : ∀ n a, .shown n a ∈ as → ∀ m b, .shown m b ∈ bs → R a b → a.feed = b.feed) :
    slotsDigest (feedSlots as) = slotsDigest (feedSlots bs) := by
  obtain ⟨bs', hbs, halike⟩ := h
  simp only [feedSlots_eq_map, slotsDigest, List.map_map]
  have hsame : as.map (slotFeed ∘ Slot.map feed) = bs'.map (slotFeed ∘ Slot.map feed) := by
    refine map_eq_of_forall₂ (forall₂_imp_of_mem halike fun s hs t ht hst => ?_)
    cases hst with
    | hidden n => rfl
    | shown n hab =>
      simp only [Function.comp, Slot.map, hfeed n _ hs n _ (hbs.mem_iff.mp ht) hab]
  rw [hsame, unordered_perm (hbs.map _)]

end

/-! ## Laws -/

variable {grids : Identity → Grid Observation}

/-- **Equality is symmetric.**

**Proof sketch.** Induction on how the first observation is sound. What is equal is alike part by
part, and each part is turned round. -/
theorem same_symm {a b : Observation} (ha : a.Sound grids) (hb : b.Sound grids)
    (h : a.same b = true) : b.same a = true := by
  induction ha generalizing b with
  | scalar s =>
    cases (same_iff (.scalar s) hb).mp h
    exact h
  | list has ih =>
    cases (same_iff (.list has) hb).mp h with | list hall =>
    cases hb with | list hbs =>
    refine sameAll_iff.mpr (List.Forall₂.flip ?_)
    exact forall₂_imp_of_mem hall fun x hx y hy hxy => ih x hx (hbs y hy) hxy
  | set has ih =>
    cases (same_iff (.set has) hb).mp h with | set hall =>
    cases hb with | set hbs =>
    refine sameAll_iff.mpr (List.Forall₂.flip ?_)
    exact forall₂_imp_of_mem hall fun x hx y hy hxy => ih x hx (hbs y hy) hxy
  | map hks hvs ihk ihv =>
    cases (same_iff (.map hks hvs) hb).mp h with | map hkeys hvalues =>
    cases hb with | map hks' hvs' =>
    refine Bool.and_eq_true_iff.mpr
      ⟨sameAll_iff.mpr (List.Forall₂.flip ?_), sameAll_iff.mpr (List.Forall₂.flip ?_)⟩
    · exact forall₂_imp_of_mem hkeys fun x hx y hy hxy => ihk x hx (hks' y hy) hxy
    · exact forall₂_imp_of_mem hvalues fun x hx y hy hxy => ihv x hx (hvs' y hy) hxy
  | absent =>
    cases (same_iff .absent hb).mp h
    rfl
  | present ha ih =>
    cases (same_iff (.present ha) hb).mp h with | present h =>
    cases hb with | present hb =>
    exact ih hb h
  | @bean t slots hnames hslots ih =>
    have ha : Observation.Sound grids (.bean t slots) := .bean hnames hslots
    cases (same_iff ha hb).mp h with | bean ht halike =>
    refine (same_iff hb ha).mpr (.bean ht.symm ?_)
    cases hb with | bean hnames' hslots' =>
    exact halike.symm_of_shown fun n x hx m y hy hxy => ih n x hx (hslots' m y hy) hxy
  | thing i =>
    cases (same_iff (.thing i) hb).mp h
    exact h
  | grid hgrid hcells ih =>
    have ha := Sound.grid hgrid hcells
    cases (same_iff ha hb).mp h with
    | object hi _ g' => exact (same_iff hb ha).mpr (.object hi g' _)
    | grid hall =>
      refine (same_iff hb ha).mpr (.grid (List.Forall₂.flip ?_))
      cases hb with | grid hgrid' hcells' =>
      exact forall₂_imp_of_mem hall fun x hx y hy hxy =>
        ⟨hxy.1.symm, ih x hx (hcells' y hy) hxy.2⟩

/-- **Equality is transitive.** -/
theorem same_trans {a b c : Observation} (ha : a.Sound grids) (hb : b.Sound grids)
    (hc : c.Sound grids) (hab : a.same b = true) (hbc : b.same c = true) : a.same c = true := by
  induction ha generalizing b c with
  | scalar s =>
    cases (same_iff (.scalar s) hb).mp hab
    exact hbc
  | list has ih =>
    cases (same_iff (.list has) hb).mp hab with | list hall =>
    cases (same_iff hb hc).mp hbc with | list hall' =>
    cases hb with | list hbs =>
    cases hc with | list hcs =>
    exact sameAll_iff.mpr (forall₂_trans_of_mem hall hall' fun x hx y hy z hz =>
      ih x hx (hbs y hy) (hcs z hz))
  | set has ih =>
    cases (same_iff (.set has) hb).mp hab with | set hall =>
    cases (same_iff hb hc).mp hbc with | set hall' =>
    cases hb with | set hbs =>
    cases hc with | set hcs =>
    exact sameAll_iff.mpr (forall₂_trans_of_mem hall hall' fun x hx y hy z hz =>
      ih x hx (hbs y hy) (hcs z hz))
  | map hks hvs ihk ihv =>
    cases (same_iff (.map hks hvs) hb).mp hab with | map hkeys hvalues =>
    cases (same_iff hb hc).mp hbc with | map hkeys' hvalues' =>
    cases hb with | map hks' hvs' =>
    cases hc with | map hks'' hvs'' =>
    refine Bool.and_eq_true_iff.mpr ⟨sameAll_iff.mpr ?_, sameAll_iff.mpr ?_⟩
    · exact forall₂_trans_of_mem hkeys hkeys' fun x hx y hy z hz =>
        ihk x hx (hks' y hy) (hks'' z hz)
    · exact forall₂_trans_of_mem hvalues hvalues' fun x hx y hy z hz =>
        ihv x hx (hvs' y hy) (hvs'' z hz)
  | absent =>
    cases (same_iff .absent hb).mp hab
    exact hbc
  | present ha ih =>
    cases (same_iff (.present ha) hb).mp hab with | present hab =>
    cases (same_iff hb hc).mp hbc with | present hbc =>
    cases hb with | present hb =>
    cases hc with | present hc =>
    exact ih hb hc hab hbc
  | @bean t slots hnames hslots ih =>
    have ha : Observation.Sound grids (.bean t slots) := .bean hnames hslots
    cases (same_iff ha hb).mp hab with | bean ht halike =>
    cases (same_iff hb hc).mp hbc with | bean ht' halike' =>
    refine (same_iff ha hc).mpr (.bean (ht.trans ht') ?_)
    cases hb with | bean hnames' hslots' =>
    cases hc with | bean hnames'' hslots'' =>
    exact halike.trans_of_shown halike' fun n x hx m y hy k z hz =>
      ih n x hx (hslots' m y hy) (hslots'' k z hz)
  | thing i =>
    cases (same_iff (.thing i) hb).mp hab
    exact hbc
  | @grid i g hgrid hcells ih =>
    have ha := Sound.grid hgrid hcells
    cases (same_iff ha hb).mp hab with
    | object hi g g' =>
      -- one object has one content
      cases hb with | grid hgrid' hcells' =>
      obtain rfl : g = g' := (hgrid hi).symm.trans (hgrid' hi)
      exact hbc
    | grid hall =>
      cases (same_iff hb hc).mp hbc with
      | object hi g g' =>
        cases hb with | grid hgrid' hcells' =>
        cases hc with | grid hgrid'' hcells'' =>
        obtain rfl : _ = g' := (hgrid' hi).symm.trans (hgrid'' hi)
        exact hab
      | grid hall' =>
        refine (same_iff ha hc).mpr (.grid ?_)
        cases hb with | grid hgrid' hcells' =>
        cases hc with | grid hgrid'' hcells'' =>
        exact forall₂_trans_of_mem hall hall' fun x hx y hy z hz hxy hyz =>
          ⟨hxy.1.trans hyz.1, ih x hx (hcells' y hy) (hcells'' z hz) hxy.2 hyz.2⟩

/-- **Equal observations have the same bytes.**

**Proof sketch.** Induction on how the first observation is sound. What is equal is alike part by
part, and equal parts have the same bytes. -/
theorem feed_eq_of_same {a b : Observation} (ha : a.Sound grids) (hb : b.Sound grids)
    (h : a.same b = true) : a.feed = b.feed := by
  induction ha generalizing b with
  | scalar s =>
    cases (same_iff (.scalar s) hb).mp h
    rfl
  | list has ih =>
    cases (same_iff (.list has) hb).mp h with | list hall =>
    cases hb with | list hbs =>
    have hfeeds := feedAll_eq (forall₂_imp_of_mem hall fun x hx y hy => ih x hx (hbs y hy))
    simp only [feed, hfeeds]
  | set has ih =>
    cases (same_iff (.set has) hb).mp h with | set hall =>
    cases hb with | set hbs =>
    have hfeeds := feedAll_eq (forall₂_imp_of_mem hall fun x hx y hy => ih x hx (hbs y hy))
    simp only [feed, hfeeds]
  | map hks hvs ihk ihv =>
    cases (same_iff (.map hks hvs) hb).mp h with | map hkeys hvalues =>
    cases hb with | map hks' hvs' =>
    have hfeedk := feedAll_eq (forall₂_imp_of_mem hkeys fun x hx y hy => ihk x hx (hks' y hy))
    have hfeedv := feedAll_eq (forall₂_imp_of_mem hvalues fun x hx y hy => ihv x hx (hvs' y hy))
    simp only [feed, hfeedk, hfeedv]
  | absent =>
    cases (same_iff .absent hb).mp h
    rfl
  | present ha ih =>
    cases (same_iff (.present ha) hb).mp h with | present h =>
    cases hb with | present hb =>
    simp only [feed, ih hb h]
  | bean hnames hslots ih =>
    cases (same_iff (.bean hnames hslots) hb).mp h with | bean ht halike =>
    cases hb with | bean hnames' hslots' =>
    have hdigest := halike.digest_eq fun n x hx m y hy => ih n x hx (hslots' m y hy)
    simp only [feed, hdigest]
  | thing i =>
    cases (same_iff (.thing i) hb).mp h
    rfl
  | @grid i g hgrid hcells ih =>
    cases (same_iff (.grid hgrid hcells) hb).mp h with
    | object hi g g' =>
      cases hb with | grid hgrid' hcells' =>
      obtain rfl : g = g' := (hgrid hi).symm.trans (hgrid' hi)
      rfl
    | grid hall =>
      cases hb with | grid hgrid' hcells' =>
      have hfeeds := feedCells_eq (forall₂_imp_of_mem hall fun x hx y hy hxy =>
        ⟨hxy.1, ih x hx (hcells' y hy) hxy.2⟩)
      simp only [feed, hfeeds]

/-- The slots of equal beans have the same digest. -/
theorem digest_eq_of_same {t t' : BeanType} {as bs : List (Slot Observation)}
    (ha : (bean t as).Sound grids) (hb : (bean t' bs).Sound grids)
    (h : (bean t as).same (bean t' bs) = true) :
    slotsDigest (feedSlots as) = slotsDigest (feedSlots bs) := by
  cases (same_iff ha hb).mp h with | bean ht halike =>
  cases ha with | bean hnames hslots =>
  cases hb with | bean hnames' hslots' =>
  exact halike.digest_eq fun n x hx m y hy => feed_eq_of_same (hslots n x hx) (hslots' m y hy)

end Observation

end Beans
