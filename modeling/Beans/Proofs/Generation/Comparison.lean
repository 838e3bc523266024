import Mathlib.Data.List.Forall2
import Mathlib.Tactic.Common
import Beans.Generation.Traits

/-!
# Generated equality and hash

The function that compares two beans and the one that feeds a bean to a hasher are written one
without the other. Yet they take the same fields in the same order, and whatever compares a field in
the one belongs to what feeds it in the other. So if the rules for the fields belong together, beans
that are equal feed the same bytes to a hasher, and have the same code if codes are kept.

## Main definitions

* `Beans.Comparison.Fits` — a comparison and a feeding belong together.
* `Beans.FieldRule.Agrees` — fields that are equal feed the same bytes.
* `Beans.KeepsCode` — a code that is kept is that of the fields.

## Main results

* `Beans.equalityOf_injective`, `Beans.hashOf_injective` — the functions tell what they do.
* `Beans.BeanModel.comparisons_fit` — equality and hash of a bean belong together.
* `Beans.bytes_eq_of_holds` — equal beans feed the same bytes to a hasher.
-/

set_option autoImplicit false

open List

namespace Beans

open Digest Layout

/-! ## Functions -/

lemma Fragment.pieces_append (a b : Fragment) : (a ++ b).pieces = a.pieces ++ b.pieces := rfl

/-- A comparison is told by its expression. -/
lemma Comparison.term_injective : Function.Injective Comparison.term := by
  intro c d h
  have hpieces := congrArg Fragment.pieces h
  match c, d with
  | own f, own g =>
    simpa [term, Fragment.pieces_append] using hpieces
  | byType f, byType g =>
    simpa [term, Fragment.pieces_append, RuntimeItem.named] using hpieces
  | own f, byType g | byType f, own g =>
    simp [term, Fragment.pieces_append, RuntimeItem.named] at hpieces

/-- What is fed to a hasher is told by the statement. -/
lemma Feeding.statement_injective (hasher : String) :
    Function.Injective (Feeding.statement hasher) := by
  intro c d h
  have hpieces := congrArg Fragment.pieces h
  match c, d with
  | own f, own g =>
    simpa [statement, Fragment.pieces_append] using hpieces
  | byType f, byType g =>
    simpa [statement, Fragment.pieces_append, RuntimeItem.named] using hpieces
  | own f, byType g | byType f, own g =>
    simp [statement, Fragment.pieces_append, RuntimeItem.named] at hpieces

/-- The comparisons are told by the function that makes them. -/
theorem equalityOf_injective : Function.Injective equalityOf := by
  intro cs ds h
  have hterm : Function.Injective fun c : Comparison => (.line ("&& " ++ c.term) : Write Fragment) := by
    intro c d hcd
    have hpieces := congrArg Fragment.pieces (Write.line.inj hcd)
    exact Comparison.term_injective (congrArg Fragment.mk (List.cons.inj hpieces).2)
  have hbody := congrArg Function.body h
  match cs, ds with
  | [], [] => rfl
  | [], _ :: _ | _ :: _, [] => simp [equalityOf] at hbody
  | c :: cs, d :: ds =>
    simp only [equalityOf, cons_append, cons.injEq, Write.line.injEq, true_and] at hbody
    obtain ⟨hfirst, hrest⟩ := hbody
    rw [Comparison.term_injective hfirst, hterm.list_map (append_cancel_right hrest)]

/-- What is fed to a hasher is told by the function that does it. -/
theorem hashOf_injective (caches : Bool) : Function.Injective (hashOf caches) := by
  intro fs gs h
  have hstatement (hasher : String) :
      Function.Injective fun f : Feeding => (.line (f.statement hasher) : Write Fragment) :=
    fun f g hfg => Feeding.statement_injective hasher (Write.line.inj hfg)
  have hbody := congrArg Function.body h
  cases caches with
  | false => exact (hstatement "state").list_map hbody
  | true =>
    refine (hstatement "&mut hasher").list_map ?_
    simpa [hashOf, block] using hbody

/-! ## Fitting -/

/-- The field that is compared. -/
def Comparison.field : Comparison → String
  | own field => field
  | byType field => field

/-- A comparison and a feeding of one field belong together: both go by the type of the field, or by
the property type. -/
inductive Comparison.Fits : Comparison → Feeding → Prop
  | own (field : String) : Fits (.own field) (.own field)
  | byType (field : String) : Fits (.byType field) (.byType field)

/-- The two tables belong together: what is compared is fed to a hasher, and nothing else is. -/
lemma PartStyle.fits (style : PartStyle) (shown : Bool) (field : String) :
    Option.Rel Comparison.Fits (style.comparison? shown field) (style.feeding? shown field) := by
  match style, shown with
  | .omit, _ => exact .none
  | .field, _ | .smart, true => exact .some (.own field)
  | .smart, false => exact .some (.byType field)

/-- What is compared is the field, unless the property is left out. -/
lemma PartStyle.map_field_comparison? (style : PartStyle) (shown : Bool) (field : String) :
    (style.comparison? shown field).map Comparison.field =
      if style = .omit then none else some field := by
  cases style <;> cases shown <;> rfl

/-- What is compared and what is fed to a hasher for some properties. -/
lemma Comparison.forall₂_fits {β : Type} (style : β → PartStyle) (shown : β → Bool)
    (field : β → String) (ps : List β) :
    Forall₂ Fits (ps.filterMap fun p => (style p).comparison? (shown p) (field p))
      (ps.filterMap fun p => (style p).feeding? (shown p) (field p)) := by
  refine rel_filterMap ?_ (forall₂_eq_eq_eq ▸ rfl : Forall₂ Eq ps ps)
  rintro p _ rfl
  exact (style p).fits (shown p) (field p)

namespace BeanModel

variable (b : BeanModel)

/-- **Equality and hash of a bean belong together**: each comparison to one feeding, in their
order. -/
theorem comparisons_fit : Forall₂ Comparison.Fits b.comparisons b.feedings := by
  refine rel_append ?_
    (Comparison.forall₂_fits PropertyModel.equals PropertyModel.shown PropertyModel.field _)
  rw [forall₂_map_left_iff, forall₂_map_right_iff, forall₂_same]
  exact fun parent _ => .own parent.field

/-- The fields that are compared: that of the parent, then those of the properties that are not left
out. -/
theorem map_field_comparisons : b.comparisons.map Comparison.field =
    b.parent.toList.map ParentField.field ++
      (b.properties.filter fun p => p.equals ≠ .omit).map PropertyModel.field := by
  rw [comparisons, map_append, map_map, map_filterMap]
  refine congrArg₂ (· ++ ·) rfl ?_
  induction b.properties with
  | nil => rfl
  | cons p ps ih =>
    rw [filterMap_cons, PartStyle.map_field_comparison?, filter_cons]
    by_cases hequals : p.equals = .omit
    · simpa [hequals] using ih
    · simpa [hequals] using ih

/-- The function that compares two beans is generated with the trait. -/
lemma equalityFunction_generated (h : b.generates.partialEq = true) :
    b.traitImpl "PartialEq" b.equalityFunction <:+: b.objectImpls := by
  rw [objectImpls, if_pos h]
  simp only [append_assoc]
  exact ⟨_, _, append_assoc ..⟩

/-- The function that feeds a bean to a hasher is generated with the trait. -/
lemma hashFunction_generated (h : b.generates.hash = true) :
    b.traitImpl "::std::hash::Hash" b.hashFunction <:+: b.objectImpls := by
  rw [objectImpls, if_pos h]
  exact ⟨_, _, rfl⟩

end BeanModel

/-! ## Bytes -/

section

variable {α : Type} {rule : FieldRule α}

/-- Two values of a field that are equal feed the same bytes to a hasher, by the type of the field and
by the property type. -/
structure FieldRule.Agrees (rule : FieldRule α) (x y : α) : Prop where
  own : rule.same x y = true → rule.feed x = rule.feed y
  byType : rule.sameByType x y = true → rule.feedByType x = rule.feedByType y

/-- Beans that agree in all fields that are compared feed the same bytes, by induction on the
comparisons. -/
theorem bytes_eq_of_holds {cs : List Comparison} {fs : List Feeding} {a b : String → α}
    (hfits : Forall₂ Comparison.Fits cs fs) (hrule : ∀ c ∈ cs, rule.Agrees (a c.field) (b c.field))
    (hsame : cs.all (Comparison.holds rule a b) = true) :
    fs.map (Feeding.bytes rule a) = fs.map (Feeding.bytes rule b) := by
  induction hfits with
  | nil => rfl
  | cons hfit _ ih =>
    obtain ⟨hfirst, hrule⟩ := forall_mem_cons.mp hrule
    obtain ⟨hholds, hsame⟩ := Bool.and_eq_true_iff.mp hsame
    rw [map_cons, map_cons, ih hrule hsame]
    congr 1
    cases hfit with
    | own field => exact hfirst.own hholds
    | byType field => exact hfirst.byType hholds

end

/-! ## Codes that are kept -/

/-- No code is kept, or that of the bytes if codes are kept. -/
def KeepsCode (caches : Bool) (fed : Feed) (kept : Option UInt64) : Prop :=
  kept = none ∨ caches = true ∧ kept = some (digest fed)

section

variable {caches : Bool} {fed : Feed} {kept : Option UInt64}

/-- What is fed to a hasher does not depend on whether the code was kept. -/
lemma KeepsCode.hashWith_eq (h : KeepsCode caches fed kept) :
    hashWith caches fed kept =
      if caches then (ofWord (digest fed), some (digest fed)) else (fed, none) := by
  obtain rfl | ⟨rfl, rfl⟩ := h
  · rfl
  · rfl

/-- Hashing keeps the code. -/
lemma KeepsCode.hashWith (h : KeepsCode caches fed kept) :
    KeepsCode caches fed (hashWith caches fed kept).2 := by
  rw [h.hashWith_eq]
  cases caches with
  | false => exact .inl rfl
  | true => exact .inr ⟨rfl, rfl⟩

end

end Beans
