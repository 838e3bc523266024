import Mathlib.Tactic.Common
import Beans.Proofs.Syntax.Ensures
import Beans.Syntax.Grammar.Items

/-!
# Declarations among the items of a file

Of the items of a file only declarations hold something that is looked at later. What a reader of
declarations ensures holds of all declarations of a file, whatever other items stand between them.

## Main definitions

* `Beans.Syntax.Item.declaration?` — the declaration that an item is.

## Main results

* `Beans.Syntax.Reader.ensures_itemIn` — what holds of declarations holds of items.
* `Beans.Syntax.declarations_of_readSource?` — and of the items of a file.
-/

set_option autoImplicit false

namespace Beans.Syntax

/-- The declaration that an item is. -/
def Item.declaration? : Item → Option Declaration
  | .declaration d => some d
  | .use .. | .impl .. | .other => none

namespace Reader

/-- A relation between tokens and declarations holds of an item if that is a declaration. -/
def OfItem (P : List Tok → Declaration → Prop) (ts : List Tok) (item : Item) : Prop :=
  ∀ d ∈ item.declaration?, P ts d

variable {P : List Tok → Declaration → Prop}

lemma ofItem_of_eq_none {ts : List Tok} {item : Item} (h : item.declaration? = none) :
    OfItem P ts item := by
  intro d hd
  rw [h] at hd
  cases hd

lemma upward_ofItem {α : Type} (hP : Upward P) (item : α → Item) :
    Upward fun ts a => OfItem P ts (item a) :=
  fun _ _ _ hts h d hd => hP hts (h d hd)

/-! ## Other items -/

lemma ensures_useItem (f : Forms) :
    (useItem f).Ensures fun _ item => item.declaration? = none := by
  have hup := upward_const fun item : Item => item.declaration? = none
  refine Ensures.after hup _ fun _ => Ensures.after hup _ fun _ => Ensures.after hup _ fun tree =>
    Ensures.after hup _ fun line => Ensures.after hup _ fun _ => Ensures.pure fun _ => ?_
  cases tree <;> rfl

lemma ensures_implSubject (f : Forms) (line : Nat) :
    (implSubject f line).Ensures fun _ item => item.declaration? = none := by
  have hup := upward_const fun item : Item => item.declaration? = none
  refine Ensures.after hup _ fun negative => Ensures.after hup _ fun _ =>
    Ensures.after hup _ fun first => Ensures.after hup _ fun isTrait => ?_
  refine Ensures.ite (fun _ => ?_) fun _ => Ensures.ite (fun _ => ensures_fail) fun _ => ?_
  · refine Ensures.after hup _ fun ty => Ensures.pure fun _ => ?_
    cases first <;> rfl
  · exact Ensures.pure fun _ => rfl

lemma ensures_implItem (f : Forms) (visible : Bool) :
    (implItem f visible).Ensures fun _ p => p.1.declaration? = none := by
  have hup := upward_const fun p : Item × Bool => p.1.declaration? = none
  refine Ensures.after hup _ fun _ => Ensures.after hup _ fun _ => Ensures.after hup _ fun line =>
    Ensures.after hup _ fun _ => Ensures.after hup _ fun _ => Ensures.after hup _ fun isConst => ?_
  refine Ensures.bind (ensures_implSubject f line) fun _ item hitem => ?_
  have hkept (unkept : Bool) : (if unkept then Item.other else item).declaration? = none := by
    cases unkept
    · exact hitem
    · rfl
  exact Ensures.after hup _ fun _ => Ensures.after hup _ fun _ => Ensures.pure fun _ => hkept _

/-! ## Items -/

variable (hP : Upward P) {f : Forms}

include hP

/-- What a reader of declarations ensures holds of the rest of an item. -/
lemma ensures_itemRest {attributes : List Attribute} {vis : Visibility} {line : Nat}
    (hrest : (declarationRest f attributes vis line).Ensures P) :
    (itemRest f attributes vis line).Ensures fun ts p => OfItem P ts p.1 := by
  have hup := upward_ofItem hP fun p : Item × Bool => p.1
  have hother {α : Type} (r : Reader α) (flag : α → Bool) :
      (r >>= fun a => pure (Item.other, flag a)).Ensures fun ts p => OfItem P ts p.1 :=
    Ensures.after hup r fun _ => Ensures.pure fun _ => ofItem_of_eq_none rfl
  refine Ensures.after hup _ fun ts => ?_
  dsimp only
  -- One case for each kind of item, in the order in which they are told apart.
  repeat' refine Ensures.ite (fun _ => ?_) fun _ => ?_
  · exact hother (function f) id
  · exact hother _ _
  · exact Ensures.after hup _ fun _ => hother _ _
  · exact hother _ _
  · exact Ensures.bind (ensures_useItem f) fun ts item hitem => Ensures.pure fun _ =>
      ofItem_of_eq_none hitem
  · exact hother (staticItem f) id
  · exact hother _ _
  · exact hother _ _
  · exact hother _ _
  · refine Ensures.bind hrest fun ts d hd => Ensures.pure fun _ => ?_
    rintro d' ⟨⟩
    exact hd
  · exact hother _ _
  · exact fun t p t' h => ofItem_of_eq_none (ensures_implItem f _ h)
  · exact hother _ _
  · exact Ensures.after hup _ fun _ => hother _ _
  · exact hother _ _

variable (hrest : ∀ attributes vis line, (declarationRest f attributes vis line).Ensures P)

include hrest

/-- **What holds of declarations holds of items.** -/
theorem ensures_itemIn : (itemIn f).Ensures (OfItem P) := by
  have hup := upward_ofItem hP fun p : Item × Bool => p.1
  refine Ensures.map (Q := fun ts p => OfItem P ts p.1) (Ensures.adapt
    (Q := fun ts p => OfItem P ts p.1) ?_ fun _ _ _ h => h) fun _ _ h => h
  exact Ensures.after hup _ fun line => Ensures.after hup _ fun attributes =>
    Ensures.after hup _ fun ⟨vis, _⟩ => ensures_itemRest hP (hrest attributes vis line)

/-- The same of a declaration on its own. -/
lemma ensures_declaration : (declaration f).Ensures P :=
  Ensures.after hP _ fun line => Ensures.after hP _ fun attributes =>
    Ensures.after hP _ fun ⟨vis, _⟩ => hrest attributes vis line

end Reader

/-! ## Texts -/

section

variable {P : List Tok → Declaration → Prop} (hP : Reader.Upward P)

include hP

/-- What the reader of items ensures of declarations holds of those of a file, with the tokens of
its text after the preamble. -/
theorem items_of_readSource?
    (hitem : ∀ layers, (Reader.itemIn (forms layers)).Ensures (Reader.OfItem P)) {text : String}
    {file : SourceFile} (h : readSource? text = some file) :
    ∃ toks, readToks (String.ofList (withoutPreamble text.toList)) = some toks ∧
      ∀ item ∈ file, ∀ d ∈ item.declaration?, P toks d := by
  obtain ⟨toks, htoks, hall⟩ := Option.bind_eq_some_iff.mp h
  obtain ⟨⟨items, written⟩, hwhole, rfl⟩ := Option.map_eq_some_iff.mp hall
  have hup := (Reader.upward_ofItem hP id).forall_mem
  refine ⟨toks, htoks, ?_⟩
  refine Reader.Ensures.of_whole
    (Q := fun ts list => ∀ item ∈ list, Reader.OfItem P ts item) ?_ hwhole
  exact Reader.Ensures.after hup _ fun _ => Reader.Ensures.after hup _ fun _ =>
    Reader.Ensures.roundsUntil (Reader.upward_ofItem hP id) (hitem _) _ _

variable (hrest : ∀ layers attributes vis line,
    (Reader.declarationRest (forms layers) attributes vis line).Ensures P)

include hrest

/-- **What a reader of declarations ensures holds of those of a file**, with the tokens of its text
after the preamble. -/
theorem declarations_of_readSource? {text : String} {file : SourceFile}
    (h : readSource? text = some file) :
    ∃ toks, readToks (String.ofList (withoutPreamble text.toList)) = some toks ∧
      ∀ item ∈ file, ∀ d ∈ item.declaration?, P toks d :=
  items_of_readSource? hP (fun layers => Reader.ensures_itemIn hP (hrest layers)) h

/-- The same of a text that is one declaration. -/
theorem declaration_of_readDeclaration? {text : String} {d : Declaration}
    (h : readDeclaration? text = some d) : ∃ toks, readToks text = some toks ∧ P toks d := by
  obtain ⟨toks, htoks, hall⟩ := Option.bind_eq_some_iff.mp h
  obtain ⟨⟨_, written⟩, hwhole, rfl⟩ := Option.map_eq_some_iff.mp hall
  exact ⟨toks, htoks, Reader.Ensures.of_whole (Reader.ensures_declaration hP (hrest _)) hwhole⟩

end

end Beans.Syntax
