import Mathlib.Data.List.Forall2
import Mathlib.Tactic.Common

/-!
# Results that may fail

What is known of the parts of a computation that succeeded, and when a computation succeeds at all.

## Main definitions

* `Beans.Outcome` — a computation succeeds exactly under a condition.

## Main results

* `Beans.map_eq_ok_iff`, `Beans.bind_eq_ok_iff` — the parts of a computation of one or of two steps.
* `Beans.mapM_eq_ok_iff` — a computation for every item of a list.
* `Beans.Outcome.bind`, `Beans.Outcome.mapM` — when a computation of two steps, or one for every item
  of a list, succeeds.
-/

set_option autoImplicit false

namespace Beans

variable {ε α β : Type}

/-- The image of a result is one of a result. -/
lemma map_eq_ok_iff {r : Except ε α} {f : α → β} {b : β} :
    r.map f = .ok b ↔ ∃ a, r = .ok a ∧ f a = b := by
  cases r <;> simp [Except.map]

/-- The image of a failure is the failure. -/
lemma map_eq_error_iff {r : Except ε α} {f : α → β} {e : ε} : r.map f = .error e ↔ r = .error e := by
  cases r <;> simp [Except.map]

/-- Telling a failure in another way does not change what succeeds. -/
lemma mapError_eq_ok_iff {ε' : Type} {r : Except ε α} {f : ε → ε'} {a : α} :
    r.mapError f = .ok a ↔ r = .ok a := by
  cases r <;> simp [Except.mapError]

/-- The second step goes on with the result of the first. -/
lemma ok_bind (a : α) (f : α → Except ε β) : (Except.ok a >>= f) = f a := rfl

/-- Two steps succeed if both do. -/
lemma bind_eq_ok_iff {r : Except ε α} {f : α → Except ε β} {b : β} :
    (r >>= f) = .ok b ↔ ∃ a, r = .ok a ∧ f a = .ok b := by
  cases r <;> simp [bind, Except.bind]

/-- Steps for all items of a list succeed if each does. -/
lemma mapM_eq_ok_iff {f : α → Except ε β} {as : List α} {bs : List β} :
    as.mapM f = .ok bs ↔ List.Forall₂ (fun a b => f a = .ok b) as bs := by
  induction as generalizing bs with
  | nil => simp [pure, Except.pure, eq_comm]
  | cons a as ih =>
    simp only [List.mapM_cons, bind_eq_ok_iff, ih, List.forall₂_cons_left_iff]
    constructor
    · rintro ⟨b, hab, cs, hcs, hbs⟩
      exact ⟨b, cs, hab, hcs, (Except.ok.inj hbs).symm⟩
    · rintro ⟨b, cs, hab, hcs, rfl⟩
      exact ⟨b, hab, cs, hcs, rfl⟩

/-- Steps for all items of a list fail as one of them does. -/
lemma mapM_eq_error {f : α → Except ε β} {as : List α} {e : ε} (h : as.mapM f = .error e) :
    ∃ a ∈ as, f a = .error e := by
  induction as with
  | nil => cases h
  | cons a as ih =>
    rw [List.mapM_cons] at h
    cases ha : f a with
    | error e' =>
      rw [ha] at h
      cases h
      exact ⟨a, List.mem_cons_self, ha⟩
    | ok b =>
      rw [ha, ok_bind] at h
      cases has : as.mapM f with
      | error e' =>
        rw [has] at h
        cases h
        obtain ⟨a', hmem, ha'⟩ := ih has
        exact ⟨a', List.mem_cons_of_mem a hmem, ha'⟩
      | ok bs =>
        rw [has] at h
        cases h

/-! ## When computations succeed -/

/-- A computation succeeds exactly under a condition. What is known of its result then is told by
`result`, and what is known of the error otherwise by `refused`. -/
structure Outcome (refused : ε → Prop) (r : Except ε α) (good : Prop) (result : α → Prop) : Prop where
  of_good : good → ∃ a, r = .ok a ∧ result a
  of_not_good : ¬good → ∃ e, r = .error e ∧ refused e

namespace Outcome

variable {refused : ε → Prop} {r : Except ε α} {f : α → Except ε β} {good good' : Prop}
  {result : α → Prop} {result' : β → Prop}

/-- A computation that succeeds. -/
lemma ok {a : α} (h : result a) : Outcome refused (.ok a) True result :=
  ⟨fun _ => ⟨a, rfl, h⟩, fun hnot => absurd trivial hnot⟩

/-- What is known if the computation succeeded. -/
lemma of_ok {a : α} (h : Outcome refused r good result) (ha : r = .ok a) : good ∧ result a := by
  by_cases hgood : good
  · obtain ⟨a', ha', hresult⟩ := h.of_good hgood
    rw [ha] at ha'
    exact ⟨hgood, Except.ok.inj ha' ▸ hresult⟩
  · obtain ⟨e, he, -⟩ := h.of_not_good hgood
    rw [ha] at he
    cases he

/-- The computation succeeds exactly under the condition. -/
lemma exists_ok_iff (h : Outcome refused r good result) : (∃ a, r = .ok a) ↔ good := by
  constructor
  · rintro ⟨a, ha⟩
    exact (h.of_ok ha).1
  · intro hgood
    obtain ⟨a, ha, -⟩ := h.of_good hgood
    exact ⟨a, ha⟩

/-- The condition may be replaced by an equivalent one. -/
lemma congr (h : Outcome refused r good result) (hiff : good ↔ good') :
    Outcome refused r good' result :=
  ⟨fun hgood => h.of_good (hiff.mpr hgood), fun hnot => h.of_not_good (mt hiff.mp hnot)⟩

/-- Less may be said of the result. -/
lemma mono {result' : α → Prop} (h : Outcome refused r good result)
    (himp : good → ∀ a, result a → result' a) : Outcome refused r good result' := by
  refine ⟨fun hgood => ?_, h.of_not_good⟩
  obtain ⟨a, ha, hresult⟩ := h.of_good hgood
  exact ⟨a, ha, himp hgood a hresult⟩

/-- **Two steps succeed if the conditions of both hold.** -/
theorem bind (h : Outcome refused r good result)
    (h' : good → ∀ a, result a → Outcome refused (f a) good' result') :
    Outcome refused (r >>= f) (good ∧ good') result' := by
  constructor
  · rintro ⟨hgood, hgood'⟩
    obtain ⟨a, rfl, ha⟩ := h.of_good hgood
    exact (h' hgood a ha).of_good hgood'
  · intro hnot
    by_cases hgood : good
    · obtain ⟨a, rfl, ha⟩ := h.of_good hgood
      exact (h' hgood a ha).of_not_good fun hgood' => hnot ⟨hgood, hgood'⟩
    · obtain ⟨e, rfl, he⟩ := h.of_not_good hgood
      exact ⟨e, rfl, he⟩

/-- The image of a result. -/
lemma map {g : α → β} (h : Outcome refused r good result) (himp : ∀ a, result a → result' (g a)) :
    Outcome refused (r.map g) good result' := by
  constructor
  · intro hgood
    obtain ⟨a, rfl, ha⟩ := h.of_good hgood
    exact ⟨g a, rfl, himp a ha⟩
  · intro hnot
    obtain ⟨e, rfl, he⟩ := h.of_not_good hnot
    exact ⟨e, rfl, he⟩

/-- Steps for all items of a list succeed if the conditions of all hold. -/
lemma mapM {good : α → Prop} {result : α → β → Prop} {as : List α}
    (h : ∀ a ∈ as, Outcome refused (f a) (good a) (result a)) :
    Outcome refused (as.mapM f) (∀ a ∈ as, good a) (List.Forall₂ result as) := by
  induction as with
  | nil => exact Outcome.congr (.ok .nil) (by simp)
  | cons a as ih =>
    obtain ⟨ha, has⟩ := List.forall_mem_cons.mp h
    rw [List.mapM_cons]
    refine Outcome.congr (ha.bind fun _ b hb => (ih has).bind fun _ bs hbs => .ok (.cons hb hbs)) ?_
    rw [List.forall_mem_cons, and_true]

end Outcome

end Beans
