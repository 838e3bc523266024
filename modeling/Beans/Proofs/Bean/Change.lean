import Mathlib.Tactic.Common
import Beans.Bean.Change
import Beans.Proofs.Result
import Beans.Sample.Changeable

/-!
# Failed changes

A change in place can fail at many points: the name is unknown, the property cannot be read before it
is written, it cannot be written, a value inside the new one does not convert, a rule is broken. All
of them come before the first step that changes something, so a bean or a builder whose change fails
is as it was.

## Main definitions

* `Beans.Change.atOnce` — a change that is made at once or not at all.

## Main results

* `Beans.Change.run_ofResult_bind` — what may fail comes first.
* `Beans.Bean.run_assign`, `Beans.Bean.run_exchange`, `Beans.Builder.run_supply` — changes in place
  come out as `set` and `put` say, or not at all.
* `Beans.failed_change` — a failed change leaves all as it was.
-/

set_option autoImplicit false

namespace Beans

/-! ## Changes that are made at once -/

namespace Change

variable {σ τ α : Type} {s : σ}

/-- How a change ends that is made at once or not at all. -/
def atOnce (s : σ) : Except BeanError (α × σ) → EStateM.Result BeanError σ α
  | .ok (a, s') => .ok a s'
  | .error e => .error e s

/-- What may fail comes first and changes nothing. -/
theorem run_ofResult_bind {β : Type} {r : Except BeanError β} {c : β → Change σ α}
    (next : β → Except BeanError (α × σ))
    (h : ∀ b, r = .ok b → (c b).run s = atOnce s (next b)) :
    (ofResult r >>= c).run s = atOnce s (r >>= next) := by
  cases r with
  | error e => rfl
  | ok b => exact h b rfl

/-- What has not failed is gone on with. -/
lemma run_ofResult_ok {β : Type} {b : β} {c : β → Change σ α} :
    (ofResult (.ok b) >>= c).run s = (c b).run s := rfl

/-- Looking at the state changes nothing. -/
lemma run_get_bind {c : σ → Change σ α} : (getThe σ >>= c).run s = (c s).run s := rfl

/-- A change inside of a part is made at once if the change of the part is. -/
lemma run_inside {whole : σ → τ} {c : Change σ α} {r : Except BeanError (α × σ)} {t : τ}
    (h : c.run s = atOnce s r) (ht : whole s = t) :
    (inside whole s c).run t = atOnce t (r.map fun (a, s') => (a, whole s')) := by
  subst ht
  simp only [EStateM.run, inside] at h ⊢
  rw [h]
  cases r <;> rfl

/-- A change that is made at once leaves the state as it was if it fails. -/
lemma eq_of_atOnce {r : Except BeanError (α × σ)} {e : BeanError} {s' : σ}
    (h : atOnce s r = .error e s') : s' = s := by
  cases r with
  | error e' =>
    cases h
    rfl
  | ok a => cases h

end Change

open Change

/-- The result of a change that answers nothing. -/
def withoutAnswer {σ : Type} (r : Except BeanError σ) : Except BeanError (Unit × σ) :=
  r.map fun s => ((), s)

/-- Answering something after a change. -/
lemma Change.run_bind_pure {σ α : Type} {s : σ} {c : Change σ Unit} {r : Except BeanError σ}
    (h : c.run s = atOnce s (withoutAnswer r)) (a : α) :
    (c >>= fun _ => pure a).run s = atOnce s (r.map fun s' => (a, s')) := by
  rw [EStateM.run_bind, h]
  cases r <;> rfl

/-! ## Beans -/

/-- Of two values that are stored under one name the second one stays. -/
lemma putField_putField {α : Type} (name : String) (v w : α) (fields : List (String × α)) :
    putField name w (putField name v fields) = putField name w fields := by
  induction fields with
  | nil => simp [putField]
  | cons f rest ih =>
    obtain ⟨n, u⟩ := f
    by_cases hn : n = name
    · simp [putField, hn]
    · simp [putField, hn, ih]

/-- The collection that is emptied first does not show in the end. -/
lemma RecordProperty.run_fill (p : RecordProperty) (b : Bean) (v : Value) :
    (p.fill v).run b = atOnce b (.ok ((), b.withField p.name v)) := by
  rw [fill]
  cases p.refilled with
  | false => rfl
  | true =>
    -- the field is written twice
    change EStateM.Result.ok () ((b.withField p.name _).withField p.name v) = _
    rw [Bean.withField, Bean.withField, putField_putField]
    rfl

/-- A value is stored in a field at once, after it is converted and checked. -/
lemma RecordProperty.run_assign (p : RecordProperty) (b : Bean) (v : Value) :
    (p.assign v).run b = atOnce b (withoutAnswer ((p.accept v).map (b.withField p.name))) := by
  rw [assign, accept]
  cases p.type.convert v with
  | error e => rfl
  | ok w =>
    have hfill := p.run_fill b (if p.trimmed then w.trimmed else w)
    cases p.rule with
    | none => exact hfill
    | some r =>
      refine (run_ofResult_bind (r := r.check p.name w) _ fun _ _ => hfill).trans ?_
      cases hcheck : r.check p.name w with
      | error e => simp [withoutAnswer, bind, Except.bind, Except.map, hcheck]
      | ok => simp [withoutAnswer, bind, Except.bind, Except.map, hcheck, pure, Except.pure]

/-- A value is stored in the property with a name at once. -/
lemma Bean.run_assignOwn (b : Bean) (name : String) (v : Value) :
    (Bean.assignOwn name v).run b = atOnce b (withoutAnswer (b.write name v)) := by
  obtain ⟨kind, fields⟩ := b
  rw [assignOwn, run_get_bind, write]
  cases kind with
  | record t =>
    dsimp only
    cases hp : t.property? name with
    | none => rfl
    | some p =>
      -- fields are found by the names of their properties, not by aliases
      obtain rfl : p.name = name := by simpa using List.find?_some hp
      exact p.run_assign ⟨.record t, fields⟩ v
  | flexible | sorted => rfl

/-- A value is stored in the property of a bean as `MetaProperty.set` says, or not at all. -/
theorem MetaProperty.run_assign (p : MetaProperty) (b : Bean) (v : Value) :
    (p.assign v).run b = atOnce b (withoutAnswer (p.set b v)) := by
  rw [assign, set]
  cases p.settable with
  | true =>
    refine (run_ofResult_bind (r := p.checkBean b) _ fun _ _ => b.run_assignOwn p.name v).trans ?_
    cases p.checkBean b <;> rfl
  | false =>
    -- an inherited property looks at the bean before it finds that there is no setter
    cases p.isInherited with
    | true =>
      refine (run_ofResult_bind (r := p.checkBean b) (fun _ => .error (.readOnly p.name))
        fun _ _ => rfl).trans ?_
      cases p.checkBean b <;> rfl
    | false => rfl

/-- A value is exchanged as `MetaProperty.put` says, or not at all. -/
theorem MetaProperty.run_exchange (p : MetaProperty) (b : Bean) (v : Value) :
    (p.exchange v).run b = atOnce b (p.put b v) := by
  rw [exchange, put, run_get_bind]
  refine run_ofResult_bind _ fun old _ => ?_
  refine (run_bind_pure (p.run_assign b v) old).trans ?_
  cases p.set b v <;> rfl

/-- **A value is stored under a name as `Bean.set` says, or not at all.** -/
theorem Bean.run_assign (b : Bean) (name : String) (v : Value) :
    (Bean.assign name v).run b = atOnce b (withoutAnswer (b.set name v)) := by
  rw [assign, set, run_get_bind]
  refine (run_ofResult_bind _ fun p _ => p.run_assign b v).trans ?_
  cases b.metaProperty name <;> rfl

/-- **A value is exchanged under a name as `Bean.put` says, or not at all.** -/
theorem Bean.run_exchange (b : Bean) (name : String) (v : Value) :
    (Bean.exchange name v).run b = atOnce b (b.put name v) := by
  rw [exchange, put, run_get_bind]
  exact run_ofResult_bind _ fun p _ => p.run_exchange b v

/-! ## Builders -/

/-- **A value is stored in a builder as `Builder.set` says, or not at all.**

**Proof sketch.** By the kind of builder. Each one looks at the name and the value before it stores
anything, so that a refusal leaves it as it was. -/
theorem Builder.run_supply (b : Builder) (name : String) (v : Value) :
    (Builder.supply name v).run b = atOnce b (withoutAnswer (b.set name v)) := by
  rw [supply, run_get_bind]
  cases b with
  | editing b =>
    refine (run_inside (b.run_assign name v) rfl).trans ?_
    rw [set]
    cases b.set name v <;> rfl
  | growing b => rfl
  | collecting t values =>
    rw [set]
    dsimp only
    cases t.metaProperty name with
    | error e => rfl
    | ok p =>
      rw [run_ofResult_ok, ok_bind]
      cases t.property? p.name with
      | none => rfl
      | some q =>
        dsimp only
        cases q.type.convert v <;> rfl
  | buffering t steps args =>
    rw [set]
    dsimp only
    cases t.metaProperty name with
    | error e => rfl
    | ok p =>
      rw [run_ofResult_ok, ok_bind]
      cases p.style.isBuildable <;> rfl

/-! ## Failed changes -/

/-- **A failed change leaves all as it was**: storing a value under a name or an alias of a bean, or in a
property that may belong to another type, with or without answering the value before, and storing a
value in a builder. -/
theorem failed_change (b : Bean) (d : Builder) (p : MetaProperty) (name : String) (v : Value)
    (e : BeanError) :
    (∀ b', (Bean.assign name v).run b = .error e b' → b' = b) ∧
    (∀ b', (Bean.exchange name v).run b = .error e b' → b' = b) ∧
    (∀ b', (p.assign v).run b = .error e b' → b' = b) ∧
    (∀ b', (p.exchange v).run b = .error e b' → b' = b) ∧
    (∀ d', (Builder.supply name v).run d = .error e d' → d' = d) ∧
    (∀ d', (Builder.supplyMeta p v).run d = .error e d' → d' = d) := by
  refine ⟨fun b' h => ?_, fun b' h => ?_, fun b' h => ?_, fun b' h => ?_, fun d' h => ?_,
    fun d' h => ?_⟩
  · rw [b.run_assign] at h
    exact eq_of_atOnce h
  · rw [b.run_exchange] at h
    exact eq_of_atOnce h
  · rw [p.run_assign] at h
    exact eq_of_atOnce h
  · rw [p.run_exchange] at h
    exact eq_of_atOnce h
  · rw [d.run_supply] at h
    exact eq_of_atOnce h
  · rw [Builder.supplyMeta, d.run_supply] at h
    exact eq_of_atOnce h

/-- The property of persons for a list of texts. -/
def personTags : MetaProperty :=
  (RecordProperty.stored Sample.personType .readWrite "tags" (.sequence .vec .text)).description

/-- A list whose second item is not a text. -/
def mixedTags : Value := .list [.scalar (.text "a"), .list []]

/-- A list that breaks off while its items are converted, on all the ways to store it. -/
theorem failed_change_mixedTags :
    let person := Sample.person.default
    let e := BeanError.typeMismatch "String" "List"
    (∃ b, (Bean.assign "tags" mixedTags).run person = .error e b ∧ b = person) ∧
    (∃ b, (Bean.exchange "tags" mixedTags).run person = .error e b ∧ b = person) ∧
    (∃ b, (personTags.assign mixedTags).run person = .error e b ∧ b = person) ∧
    (∃ b, (personTags.exchange mixedTags).run person = .error e b ∧ b = person) ∧
    (∃ d, (Builder.supply "tags" mixedTags).run (.editing person) = .error e d ∧
      d = .editing person) ∧
    (∃ d, (Builder.supplyMeta personTags mixedTags).run (.editing person) = .error e d ∧
      d = .editing person) := by
  obtain ⟨hassign, hexchange, hset, hput, hsupply, hmeta⟩ :=
    failed_change Sample.person.default (.editing Sample.person.default) personTags "tags" mixedTags
      (.typeMismatch "String" "List")
  exact ⟨⟨_, rfl, hassign _ rfl⟩, ⟨_, rfl, hexchange _ rfl⟩, ⟨_, rfl, hset _ rfl⟩,
    ⟨_, rfl, hput _ rfl⟩, ⟨_, rfl, hsupply _ rfl⟩, ⟨_, rfl, hmeta _ rfl⟩⟩

end Beans
