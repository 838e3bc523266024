import Mathlib.Tactic.Common
import Beans.Syntax.Reader

/-!
# What readers ensure

A reader takes tokens from the front, so what holds of a result and the tokens that are left holds
of the result and all tokens, if it is of the kind that more tokens cannot undo. Most of a reader
need then not be looked at: only the parts that make the result matter.

## Main definitions

* `Beans.Syntax.Reader.Ensures` — a relation between the tokens that came next and the result.
* `Beans.Syntax.Reader.Upward` — the relations that more tokens in front do not undo.

## Main results

* `Beans.Syntax.Reader.Ensures.bind`, `Beans.Syntax.Reader.Ensures.after` — one reader after
  another.
* `Beans.Syntax.Reader.Ensures.roundsUntil`, `Beans.Syntax.Reader.Ensures.roundsSeparated` — a reader
  again and again.
* `Beans.Syntax.Reader.ensures_group_inside` — a reader of all tokens of a group.
-/

set_option autoImplicit false

namespace Beans.Syntax.Reader

variable {α β : Type}

/-- Whatever a reader gives is in a relation to the tokens that came next. -/
def Ensures (r : Reader α) (P : List Tok → α → Prop) : Prop :=
  ∀ ⦃t : Tape⦄ ⦃a : α⦄ ⦃t' : Tape⦄, r.run t = some (a, t') → P t.ahead a

/-- A relation holds of more tokens if it holds of the last ones of them. -/
def Upward (P : List Tok → α → Prop) : Prop := ∀ ⦃ts ts' a⦄, ts <:+ ts' → P ts a → P ts' a

lemma upward_const (p : α → Prop) : Upward fun (_ : List Tok) a => p a := fun _ _ _ _ h => h

lemma Upward.forall_mem {P : List Tok → α → Prop} (hP : Upward P) :
    Upward fun ts (list : List α) => ∀ a ∈ list, P ts a :=
  fun _ _ _ hts h a ha => hP hts (h a ha)

lemma run_bind_eq_some {r : Reader α} {f : α → Reader β} {t t'' : Tape} {b : β} :
    (r >>= f).run t = some (b, t'') ↔
      ∃ a t', r.run t = some (a, t') ∧ (f a).run t' = some (b, t'') :=
  Option.bind_eq_some_iff.trans Prod.exists

/-! ## Rules -/

section

variable {P : List Tok → β → Prop} {Q : List Tok → α → Prop} {r : Reader α}

lemma Ensures.pure {b : β} (h : ∀ ts, P ts b) : (Pure.pure b : Reader β).Ensures P := by
  rintro t b t' ⟨⟩
  exact h t.ahead

/-- What the first reader ensures may be used where the second one is looked at. -/
lemma Ensures.bind {f : α → Reader β} (hr : r.Ensures Q)
    (hf : ∀ ts a, Q ts a → (f a).Ensures fun _ b => P ts b) : (r >>= f).Ensures P := by
  intro t b t'' h
  obtain ⟨a, t', ha, hb⟩ := run_bind_eq_some.mp h
  exact hf _ a (hr ha) hb

/-- A reader that comes first need not be looked at: it leaves the last ones of the tokens. -/
lemma Ensures.after (hP : Upward P) (r : Reader α) {f : α → Reader β}
    (hf : ∀ a, (f a).Ensures P) : (r >>= f).Ensures P := by
  intro t b t'' h
  obtain ⟨a, t', ha, hb⟩ := run_bind_eq_some.mp h
  exact hP (r.suffix ha) (hf a hb)

lemma ensures_fail : (fail : Reader β).Ensures P := nofun

lemma Ensures.ite {c : Prop} [Decidable c] {yes no : Reader β} (hyes : c → yes.Ensures P)
    (hno : ¬ c → no.Ensures P) : (if c then yes else no).Ensures P := by
  split
  · exact hyes ‹_›
  · exact hno ‹_›

lemma Ensures.map (hr : r.Ensures Q) {g : α → β}
    (hg : ∀ ts a, Q ts a → P ts (g a)) : (g <$> r).Ensures P := by
  refine Ensures.bind hr fun ts a ha => ?_
  exact Ensures.pure fun _ => hg ts a ha

/-- What is written down does not matter. -/
lemma Ensures.adapt {start : Tape → List Tok} {result : Tape → α → Tape → β × List Tok}
    (hr : r.Ensures Q) (h : ∀ t a t', Q t.ahead a → P t.ahead (result t a t').1) :
    (r.adapt start result).Ensures P := by
  intro t b t'' hrun
  obtain ⟨⟨a, t'⟩, ha, heq⟩ := Option.map_eq_some_iff.mp hrun
  cases heq
  have hahead := hr ha
  exact h t a t' hahead

/-- What holds of every result of one round holds of all results of many. -/
lemma Ensures.roundsUntil (hQ : Upward Q) (hr : r.Ensures Q) (stop : List Tok → Bool) (n : Nat) :
    (roundsUntil stop r n).Ensures fun ts list => ∀ a ∈ list, Q ts a := by
  have hup := hQ.forall_mem
  induction n with
  | zero => exact Ensures.after hup _ fun _ => Ensures.pure fun _ => nofun
  | succ n ih =>
    refine Ensures.after hup _ fun _ =>
      Ensures.ite (fun _ => Ensures.pure fun _ => nofun) fun _ => ?_
    intro t list t' h
    obtain ⟨a, t₁, ha, hothers⟩ := run_bind_eq_some.mp h
    obtain ⟨others, t₂, hrounds, hlist⟩ := run_bind_eq_some.mp hothers
    cases hlist
    exact List.forall_mem_cons.mpr ⟨hr ha, hup (r.suffix ha) (ih hrounds)⟩

/-- The same if separators stand between the rounds. -/
lemma Ensures.roundsSeparated (hQ : Upward Q) (hr : r.Ensures Q) (stop : List Tok → Bool)
    (sep : String) (n : Nat) :
    (roundsSeparated stop sep r n).Ensures fun ts list => ∀ a ∈ list, Q ts a := by
  have hup := hQ.forall_mem
  induction n with
  | zero => exact Ensures.after hup _ fun _ => Ensures.pure fun _ => nofun
  | succ n ih =>
    refine Ensures.after hup _ fun _ =>
      Ensures.ite (fun _ => Ensures.pure fun _ => nofun) fun _ => ?_
    intro t list t' h
    obtain ⟨a, t₁, ha, hafter⟩ := run_bind_eq_some.mp h
    obtain ⟨stops, t₂, hstops, hafter⟩ := run_bind_eq_some.mp hafter
    split at hafter
    · cases hafter
      exact List.forall_mem_singleton.mpr (hr ha)
    · obtain ⟨_, t₃, hsep, hothers⟩ := run_bind_eq_some.mp hafter
      obtain ⟨others, t₄, hrounds, hlist⟩ := run_bind_eq_some.mp hothers
      cases hlist
      have hahead : t₃.ahead <:+ t.ahead :=
        ((op sep).suffix hsep).trans (((asks stop).suffix hstops).trans (r.suffix ha))
      exact List.forall_mem_cons.mpr ⟨hr ha, hup hahead (ih hrounds)⟩

lemma Ensures.of_whole (hr : r.Ensures Q) {ts toks : List Tok} {a : α}
    (h : r.whole ts = some (a, toks)) : Q ts a := by
  unfold whole at h
  split at h
  · rename_i hrun
    cases h
    exact hr hrun
  · cases h

end

/-! ## Small readers -/

lemma ensures_ahead : ahead.Ensures fun ts a => a = ts := by
  rintro t a t' ⟨⟩
  rfl

lemma ensures_asks (p : List Tok → Bool) : (asks p).Ensures fun ts b => b = p ts :=
  Ensures.map ensures_ahead fun _ _ h => congrArg p h

lemma run_ensure (p : List Tok → Bool) (t : Tape) :
    (ensure p).run t = if p t.ahead then some ((), t) else none := by
  have hrun : (ensure p).run t =
      (if p t.ahead then Pure.pure () else fail : Reader Unit).run t := rfl
  rw [hrun]
  split <;> rfl

lemma ensures_ensure (p : List Tok → Bool) : (ensure p).Ensures fun ts _ => p ts = true :=
  Ensures.bind (ensures_asks p) fun ts b hb =>
    Ensures.ite (fun htrue => Ensures.pure fun _ => by rw [← hb, htrue]) fun _ => ensures_fail

lemma ensures_op (o : String) : (op o).Ensures fun ts _ => atOp o ts = true :=
  Ensures.bind (ensures_ensure _) fun _ _ h => fun _ _ _ _ => h

/-- A group that is read was there, and what is ensured of its tokens holds. -/
lemma ensures_group_inside (d : Delimiter) {r : Reader α} {Q : List Tok → α → Prop}
    (hr : r.Ensures Q) : (group d r).Ensures fun ts a =>
      ∃ items lines rest, ts = .group d items lines :: rest ∧ Q items a := by
  refine Ensures.bind ensures_ahead fun ts a ha => ?_
  subst ha
  split
  · refine Ensures.ite (fun hd => ?_) fun _ => ensures_fail
    subst hd
    split
    · rename_i hwhole
      have hinside := hr.of_whole hwhole
      intro t b t' h
      obtain ⟨_, _, _, hb⟩ := run_bind_eq_some.mp h
      cases hb
      exact ⟨_, _, _, rfl, hinside⟩
    · exact ensures_fail
  · exact ensures_fail

/-- A group that is read was there. -/
lemma ensures_group (d : Delimiter) (r : Reader α) :
    (group d r).Ensures fun ts _ => ∃ items lines rest, ts = .group d items lines :: rest := by
  intro t a t' h
  have hr : r.Ensures fun _ _ => True := fun _ _ _ _ => trivial
  obtain ⟨items, lines, rest, hahead, -⟩ := ensures_group_inside d hr h
  exact ⟨items, lines, rest, hahead⟩

end Beans.Syntax.Reader
