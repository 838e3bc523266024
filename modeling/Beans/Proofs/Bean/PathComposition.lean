import Mathlib.Tactic.Common
import Beans.Proofs.Bean.PathGrammar

/-!
# Following composed paths

All steps of a path but the last lead from one bean to another one, and the last leads to a value.
So a path that is written after another one goes on from the bean to which that one leads, if it
leads to a bean. Whatever is not as a step expects it ends the search without a result.

## Main definitions

* `Beans.PropertyPath.reach?` — the value at the end of a path.
* `Beans.PropertyPath.append` — a path that goes on from the end of another one.
* `Beans.Value.Lacks`, `Beans.PathSegment.Stuck` — why a key means no item, and a step leads
  nowhere.
* `Beans.PropertyPath.Lost` — some step of a path leads nowhere, or what it leads to is of no use.

## Main results

* `Beans.PropertyPath.parse_append` — texts with a dot between them are read as the path that goes
  on.
* `Beans.PropertyPath.reach?_append` — following a path that goes on from another one.
* `Beans.PropertyPath.find?_eq_none_iff` — when a path yields nothing.
* `Beans.PropertyPath.find?_compose` — what a composed path yields.
-/

set_option autoImplicit false

open List

namespace Beans

open Text

/-! ## Why a step leads nowhere -/

/-- A key means no item of a value: a list or a set has no item of that number, or the key is no
number; no key of a map has that text; or the value is no collection at all. -/
inductive Value.Lacks (v : Value) (key : String) : Prop
  | number {items : List Value} (hv : v = .list items ∨ v = .set items)
      (h : ∀ i, keyIndex? key = some i → items.length ≤ i)
  | text {entries : List (Value × Value)} (hv : v = .map entries)
      (h : ∀ e ∈ entries, e.1.display ≠ key)
  | shape (hitems : ∀ items, v ≠ .list items ∧ v ≠ .set items)
      (hentries : ∀ entries, v ≠ .map entries)

lemma Value.item?_eq_none_iff {v : Value} {key : String} : v.item? key = none ↔ v.Lacks key := by
  have hnumber (items : List Value) : (keyIndex? key).bind (fun i => items[i]?) = none ↔
      ∀ i, keyIndex? key = some i → items.length ≤ i := by
    simp only [Option.bind_eq_none_iff, getElem?_eq_none_iff]
  have htext (entries : List (Value × Value)) :
      (entries.find? fun e => e.1.display == key).map Prod.snd = none ↔
        ∀ e ∈ entries, e.1.display ≠ key := by
    simp only [Option.map_eq_none_iff, find?_eq_none, beq_iff_eq, ne_eq]
  constructor
  · intro h
    cases v with
    | list items => exact .number (.inl rfl) ((hnumber items).mp h)
    | set items => exact .number (.inr rfl) ((hnumber items).mp h)
    | map entries => exact .text rfl ((htext entries).mp h)
    | scalar | optional | bean | thing | grid => exact .shape (by simp) (by simp)
  · intro h
    cases h with
    | number hv h =>
      rcases hv with rfl | rfl
      · exact (hnumber _).mpr h
      · exact (hnumber _).mpr h
    | text hv h =>
      subst hv
      exact (htext _).mpr h
    | shape hitems hentries =>
      cases v with
      | list items => exact absurd rfl (hitems items).1
      | set items => exact absurd rfl (hitems items).2
      | map entries => exact absurd rfl (hentries entries)
      | scalar | optional | bean | thing | grid => rfl

/-- A step leads nowhere from a bean: there is no such property, it is not meant to be read or
cannot be, its value is nothing, or the key means no item of the value. -/
inductive PathSegment.Stuck (s : PathSegment) (b : Bean) : Prop
  | missing (h : b.table.find? s.name = none)
  | unreadable {p : MetaProperty} (hp : b.table.find? s.name = some p)
      (h : p.style.isReadable = false)
  | failing {p : MetaProperty} {e : BeanError} (hp : b.table.find? s.name = some p)
      (h : p.get b = .error e)
  | nothing {p : MetaProperty} {v : Value} (hp : b.table.find? s.name = some p)
      (hv : p.get b = .ok v) (hkey : s.key = none) (h : v.unwrapOptional = .null)
  | lacking {p : MetaProperty} {v : Value} {key : String} (hp : b.table.find? s.name = some p)
      (hv : p.get b = .ok v) (hkey : s.key = some key) (h : v.unwrapOptional.Lacks key)

/-- Nothing is all that does not count as a whole value. -/
lemma Value.whole?_eq_none_iff {v : Value} : v.whole? = none ↔ v = .null := by
  constructor
  · intro h
    cases v with
    | scalar s => cases s <;> first | rfl | cases h
    | list | set | map | optional | bean | thing | grid => cases h
  · rintro rfl
    rfl

/-- **A step leads to no value exactly if it is stuck.** -/
theorem PathSegment.follow?_eq_none_iff {s : PathSegment} {b : Bean} :
    s.follow? b = none ↔ s.Stuck b := by
  rw [follow?]
  constructor
  · intro h
    cases hp : b.table.find? s.name with
    | none => exact .missing hp
    | some p =>
      cases hreadable : p.style.isReadable with
      | false => exact .unreadable hp hreadable
      | true =>
        cases hv : p.get b with
        | error e => exact .failing hp hv
        | ok v =>
          rw [hp] at h
          simp only [Option.bind_eq_bind, Option.bind_some, hreadable, hv, Except.toOption] at h
          cases hkey : s.key with
          | none =>
            rw [hkey] at h
            exact .nothing hp hv hkey (Value.whole?_eq_none_iff.mp h)
          | some key =>
            rw [hkey] at h
            exact .lacking hp hv hkey (Value.item?_eq_none_iff.mp h)
  · intro h
    cases h with
    | missing h => rw [h]; rfl
    | unreadable hp h => simp [hp, h]
    | failing hp h => simp [hp, h, Except.toOption]
    | nothing hp hv hkey h => simp [hp, hv, hkey, h, Except.toOption, Value.whole?_eq_none_iff]
    | lacking hp hv hkey h => simp [hp, hv, hkey, Value.item?_eq_none_iff.mpr h, Except.toOption]

/-! ## What lies at the end of a path -/

lemma Value.asBean?_eq_some_iff {v : Value} {c : Bean} : v.asBean? = some c ↔ v = .bean c := by
  cases v <;> simp [asBean?]

lemma Value.asBean?_eq_none_iff {v : Value} : v.asBean? = none ↔ ∀ c, v ≠ .bean c := by
  cases v <;> simp [asBean?]

/-- A value has no form of a type, and neither has what is inside it if it is optional. -/
lemma ValueType.find?_eq_none_iff {t : ValueType} {v : Value} :
    t.find? v = none ↔ (∃ e, t.ofValue v = .error e) ∧
      ∀ inner, v = .optional (some inner) → ∃ e, t.ofValue inner = .error e := by
  rw [find?.eq_def]
  cases hv : t.ofValue v with
  | ok typed => simp
  | error e =>
    have hinner (inner : Value) :
        (t.ofValue inner).toOption = none ↔ ∃ e, t.ofValue inner = .error e := by
      cases t.ofValue inner <;> simp [Except.toOption]
    split
    case h_1 heq => cases heq
    case h_2 inner _ => simp [hinner]
    case h_3 hother => simpa using fun inner heq => absurd heq (hother inner)

namespace PropertyPath

variable {t : ValueType} {b : Bean} {s : PathSegment} {rest : List PathSegment}

/-- The value at the end of a path. -/
def reach? (p : PropertyPath) (b : Bean) : Option Value :=
  (followAll? b p.before).bind p.last.follow?

/-- What a path yields is the value at its end in the form of the type. -/
lemma find?_eq (p : PropertyPath) (t : ValueType) (b : Bean) :
    p.find? t b = (p.reach? b).bind t.find? := by
  rw [reach?, Option.bind_assoc]
  rfl

/-- As a value of any type a path yields the value at its end. -/
lemma find?_any (p : PropertyPath) (b : Bean) : p.find? .any b = (p.reach? b).map .any := by
  rw [find?_eq, Option.map_eq_bind]
  rfl

/-- Some step of a path is stuck, or it leads to no bean from which to go on; or the value at the
end has no form of the type, and neither has what is inside it if it is optional. -/
inductive Lost (t : ValueType) : Bean → List PathSegment → Prop
  | stuck {b : Bean} {s : PathSegment} {rest : List PathSegment} (h : s.Stuck b) :
      Lost t b (s :: rest)
  | noBean {b : Bean} {s : PathSegment} {rest : List PathSegment} {v : Value} (hrest : rest ≠ [])
      (hv : s.follow? b = some v) (h : ∀ c, v.unwrapOptional ≠ .bean c) : Lost t b (s :: rest)
  | further {b c : Bean} {s : PathSegment} {rest : List PathSegment} {v : Value}
      (hv : s.follow? b = some v) (hc : v.unwrapOptional = .bean c) (h : Lost t c rest) :
      Lost t b (s :: rest)
  | mismatch {b : Bean} {s : PathSegment} {v : Value} {e : BeanError} (hv : s.follow? b = some v)
      (h : t.ofValue v = .error e)
      (hinner : ∀ inner, v = .optional (some inner) → ∃ e, t.ofValue inner = .error e) :
      Lost t b [s]

/-- A path is lost at its only step. -/
lemma lost_singleton_iff : Lost t b [s] ↔ (s.follow? b).bind t.find? = none := by
  rw [Option.bind_eq_none_iff]
  constructor
  · intro h v hv
    cases h with
    | stuck h => rw [PathSegment.follow?_eq_none_iff.mpr h] at hv; cases hv
    | noBean hrest => exact absurd rfl hrest
    | further _ _ h => cases h
    | mismatch hw h hinner =>
      obtain rfl := Option.some.inj (hw.symm.trans hv)
      exact ValueType.find?_eq_none_iff.mpr ⟨⟨_, h⟩, hinner⟩
  · intro h
    cases hv : s.follow? b with
    | none => exact .stuck (PathSegment.follow?_eq_none_iff.mp hv)
    | some v =>
      obtain ⟨⟨e, he⟩, hinner⟩ := ValueType.find?_eq_none_iff.mp (h v hv)
      exact .mismatch hv he hinner

/-- A path is lost at its first step, or further on from the bean to which that leads. -/
lemma lost_cons_iff (hrest : rest ≠ []) :
    Lost t b (s :: rest) ↔
      ∀ v, s.follow? b = some v → ∀ c, v.unwrapOptional = .bean c → Lost t c rest := by
  constructor
  · intro h v hv c hc
    cases h with
    | stuck h => rw [PathSegment.follow?_eq_none_iff.mpr h] at hv; cases hv
    | noBean _ hw h =>
      obtain rfl := Option.some.inj (hw.symm.trans hv)
      exact absurd hc (h c)
    | further hw hd h =>
      obtain rfl := Option.some.inj (hw.symm.trans hv)
      obtain rfl := Value.bean.inj (hd.symm.trans hc)
      exact h
    | mismatch => exact absurd rfl hrest
  · intro h
    cases hv : s.follow? b with
    | none => exact .stuck (PathSegment.follow?_eq_none_iff.mp hv)
    | some v =>
      cases hc : v.unwrapOptional.asBean? with
      | none => exact .noBean hrest hv (Value.asBean?_eq_none_iff.mp hc)
      | some c =>
        have hbean := Value.asBean?_eq_some_iff.mp hc
        exact .further hv hbean (h v hv c hbean)

/-- **A path yields nothing exactly if it is lost at some step**, by induction over the steps before
the last. -/
theorem find?_eq_none_iff (p : PropertyPath) (t : ValueType) (b : Bean) :
    p.find? t b = none ↔ Lost t b p.segments := by
  rw [find?_eq, reach?, segments, Option.bind_assoc]
  generalize p.before = before
  induction before generalizing b with
  | nil => exact lost_singleton_iff.symm
  | cons s before ih =>
    rw [followAll?, cons_append, lost_cons_iff (by simp)]
    simp only [Option.bind_eq_bind, Option.bind_assoc, Option.bind_eq_none_iff, ← ih,
      Value.asBean?_eq_some_iff]

/-! ## Paths that go on -/

/-- A path that goes on from the end of another one. -/
def append (p q : PropertyPath) : PropertyPath :=
  ⟨p.text ++ "." ++ q.text, p.segments ++ q.before, q.last⟩

/-- **Texts with a dot between them are read as the path that goes on.** -/
theorem parse_append {p q : String} {first second : PropertyPath} (hp : parse p = .ok first)
    (hq : parse q = .ok second) : parse (p ++ "." ++ q) = .ok (first.append second) := by
  obtain ⟨rfl, hfirst, hfirstSegments⟩ := parse_eq_ok_iff.mp hp
  obtain ⟨rfl, hsecond, hsecondSegments⟩ := parse_eq_ok_iff.mp hq
  have hsegments : (first.append second).segments = first.segments ++ second.segments :=
    append_assoc ..
  refine parse_eq_ok_iff.mpr ⟨rfl, ?_, ?_⟩
  · rw [hsegments, map_append, joinWith_append, hfirst, hsecond]
    · exact mt map_eq_nil_iff.mp first.segments_ne_nil
    · exact mt map_eq_nil_iff.mp second.segments_ne_nil
  · rw [hsegments]
    exact forall_mem_append.mpr ⟨hfirstSegments, hsecondSegments⟩

/-- Some steps are followed one group after the other. -/
lemma followAll?_append (b : Bean) (first second : List PathSegment) :
    followAll? b (first ++ second) = (followAll? b first).bind fun c => followAll? c second := by
  induction first generalizing b with
  | nil => rfl
  | cons s first ih =>
    rw [cons_append, followAll?, followAll?]
    simp only [Option.bind_eq_bind, Option.bind_assoc, ih]

/-- All steps of a path lead to the bean at its end, or to the one inside it if it is optional. -/
lemma followAll?_segments (p : PropertyPath) (b : Bean) :
    followAll? b p.segments = (p.reach? b).bind fun v => v.unwrapOptional.asBean? := by
  rw [segments, followAll?_append, reach?, Option.bind_assoc]
  refine congrArg _ (funext fun c => ?_)
  simp [followAll?]

/-- **A path that goes on from the end of another one is followed from the bean there.** -/
theorem reach?_append (p q : PropertyPath) (b : Bean) :
    (p.append q).reach? b =
      ((p.reach? b).bind fun v => v.unwrapOptional.asBean?).bind q.reach? := by
  rw [reach?, append, followAll?_append, followAll?_segments, Option.bind_assoc]
  rfl

/-- **What a composed path yields**: what the second path yields from the bean to which the first
one leads. At most one optional value is taken away around that bean; if there is no bean, the
composed path yields nothing. Any path of any length yields nothing exactly if it is lost at some
step, so no error comes up on the way. -/
theorem find?_compose {p q : String} {first second : PropertyPath} (hp : parse p = .ok first)
    (hq : parse q = .ok second) :
    (∃ path, parse (p ++ "." ++ q) = .ok path ∧ ∀ t b, path.find? t b =
      ((first.find? .any b).bind fun x => x.toValue.unwrapOptional.asBean?).bind fun c =>
        second.find? t c) ∧
    ∀ (path : PropertyPath) t b, path.find? t b = none ↔ Lost t b path.segments := by
  refine ⟨⟨first.append second, parse_append hp hq, fun t b => ?_⟩, find?_eq_none_iff⟩
  have hbean : ((first.find? .any b).bind fun x => x.toValue.unwrapOptional.asBean?) =
      (first.reach? b).bind fun v => v.unwrapOptional.asBean? := by
    rw [find?_any, Option.bind_map]
    rfl
  rw [hbean, find?_eq, reach?_append, Option.bind_assoc]
  simp only [find?_eq]

/-- An optional home under a key of a map, and the second of its rooms. The name of the room is no
number, and the home before has nothing to go on from. -/
theorem find?_compose_homes :
    let hall : Bean := ⟨.sorted, [("name", .text "hall")]⟩
    let home : Bean := ⟨.flexible [], [("rooms", .list [.null, .bean hall])]⟩
    let homes : Value :=
      .map [(.text "old", .optional none), (.text "new", .optional (some (.bean home)))]
    let person : Bean := ⟨.flexible [], [("homes", homes)]⟩
    let first : PropertyPath := ⟨"homes[new]", [], ⟨"homes", some "new"⟩⟩
    let gone : PropertyPath := ⟨"homes[old]", [], ⟨"homes", some "old"⟩⟩
    let second : PropertyPath := ⟨"rooms[1].name", [⟨"rooms", some "1"⟩], ⟨"name", none⟩⟩
    (parse "homes[new]" = .ok first ∧ parse "rooms[1].name" = .ok second ∧
      ∃ path, parse ("homes[new]" ++ "." ++ "rooms[1].name") = .ok path ∧
        path.find? .text person = some (.text "hall") ∧
        path.find? (.int .i32) person = none ∧ Lost (.int .i32) person path.segments) ∧
    parse "homes[old]" = .ok gone ∧
      ∃ path, parse ("homes[old]" ++ "." ++ "rooms[1].name") = .ok path ∧
        path.find? .any person = none ∧ Lost .any person path.segments := by
  intro hall home homes person first gone second
  have hfirst : parse "homes[new]" = .ok first := rfl
  have hgone : parse "homes[old]" = .ok gone := rfl
  have hsecond : parse "rooms[1].name" = .ok second := rfl
  obtain ⟨⟨path, hpath, hfind⟩, hlost⟩ := find?_compose hfirst hsecond
  obtain ⟨⟨other, hother, hnothing⟩, -⟩ := find?_compose hgone hsecond
  have htext : path.find? .text person = some (.text "hall") := by
    rw [hfind]
    rfl
  have hnumber : path.find? (.int .i32) person = none := by
    rw [hfind]
    rfl
  have hany : other.find? .any person = none := by
    rw [hnothing]
    rfl
  exact ⟨⟨hfirst, hsecond, path, hpath, htext, hnumber, (hlost path _ _).mp hnumber⟩, hgone, other,
    hother, hany, (hlost other _ _).mp hany⟩

end PropertyPath

end Beans
