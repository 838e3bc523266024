import Mathlib.Tactic.Common
import Beans.Proofs.Text.Cut
import Beans.Types.Resolved

/-!
# Written forms of resolved types

The array of a type with arguments is one declared type with the arguments of its component, and its
written form is the array of a type with arguments. So the written form brings the arguments from
under the arrays to the type at the bottom, and resolving it makes the arrays around that again,
whatever the context binds: there is no parameter in the written form.

## Main definitions

* `Beans.TypeInfo.IsPlain`, `Beans.ResolvedType.IsPlain` — no array has parameters or supertypes of
  its own.

## Main results

* `Beans.ResolvedType.same_ofGeneric_toGeneric` — resolved anywhere, the written form of a type is
  the same type.
* `Beans.ResolvedType.ofGeneric_toGeneric_eq_iff` — nothing at all is lost if all arrays are plain.
* `Beans.ResolvedType.display_toGeneric` — the written form has the text of the type.
* `Beans.ResolvedType.toGeneric_lossless` — both in one.
-/

set_option autoImplicit false

open List

namespace Beans

open Text

/-! ## Plain types -/

/-- No array in a declared type has parameters or supertypes of its own. -/
def TypeInfo.IsPlain : TypeInfo → Prop
  | declared .. => True
  | array component own supertypes => component.IsPlain ∧ own = [] ∧ supertypes = []

namespace ResolvedType

/-- The declared type is plain, and so are the arguments. -/
inductive IsPlain : ResolvedType → Prop
  | mk {raw : TypeInfo} {args : List ResolvedType} (hraw : raw.IsPlain)
      (hargs : ∀ a ∈ args, IsPlain a) : IsPlain (mk raw args)

lemma isPlain_mk_iff {raw : TypeInfo} {args : List ResolvedType} :
    (mk raw args).IsPlain ↔ raw.IsPlain ∧ ∀ a ∈ args, a.IsPlain := by
  constructor
  · intro h
    cases h with
    | mk hraw hargs => exact ⟨hraw, hargs⟩
  · rintro ⟨hraw, hargs⟩
    exact .mk hraw hargs

/-! ## Resolving -/

/-- What is left of a written type after resolving it: the arguments, and a type of the same name.
It is the type itself if that is plain. -/
lemma ofGeneric_toGeneric_raw (bs : Bindings) (raw : TypeInfo) (args : List GenericType) :
    ∃ raw', ofGeneric bs (raw.toGeneric args) = mk raw' (ofGenericAll bs args) ∧
      raw'.name = raw.name ∧ (raw' = raw ↔ raw.IsPlain) :=
  match raw with
  | .declared name primitive params supertypes => by
    refine ⟨.declared name primitive params supertypes, ?_, rfl, iff_of_true rfl trivial⟩
    cases args <;> rfl
  | .array component own supertypes => by
    obtain ⟨raw', hraw, hname, hplain⟩ := ofGeneric_toGeneric_raw bs component args
    refine ⟨raw'.arrayOf, ?_, congrArg (· ++ "[]") hname, ?_⟩
    · rw [TypeInfo.toGeneric, ofGeneric, hraw]
      rfl
    · rw [TypeInfo.arrayOf, TypeInfo.IsPlain, TypeInfo.array.injEq, hplain]
      simp only [eq_comm]

mutual

/-- **The written form of a type says which type it is**: resolved anywhere, it is the same type
again. -/
theorem same_ofGeneric_toGeneric (bs : Bindings) :
    ∀ t : ResolvedType, (ofGeneric bs t.toGeneric).same t = true
  | mk raw args => by
    obtain ⟨raw', hraw, hname, -⟩ := ofGeneric_toGeneric_raw bs raw (toGenericAll args)
    rw [toGeneric, hraw, same, TypeInfo.same, hname, beq_self_eq_true, Bool.true_and]
    exact sameAll_ofGenericAll_toGenericAll bs args

/-- So do the written forms of several types. -/
theorem sameAll_ofGenericAll_toGenericAll (bs : Bindings) :
    ∀ ts : List ResolvedType, sameAll (ofGenericAll bs (toGenericAll ts)) ts = true
  | [] => rfl
  | t :: ts => by
    rw [toGenericAll, ofGenericAll, sameAll, same_ofGeneric_toGeneric bs t,
      sameAll_ofGenericAll_toGenericAll bs ts]
    rfl

end

mutual

/-- **Nothing is lost exactly if all arrays are plain**: an array that has parameters or supertypes
of its own is one without them after it was written and resolved. -/
theorem ofGeneric_toGeneric_eq_iff (bs : Bindings) :
    ∀ t : ResolvedType, ofGeneric bs t.toGeneric = t ↔ t.IsPlain
  | mk raw args => by
    obtain ⟨raw', hraw, -, hplain⟩ := ofGeneric_toGeneric_raw bs raw (toGenericAll args)
    rw [toGeneric, hraw, mk.injEq, hplain, isPlain_mk_iff, ofGenericAll_toGenericAll_eq_iff bs args]

/-- The same for several types. -/
theorem ofGenericAll_toGenericAll_eq_iff (bs : Bindings) :
    ∀ ts : List ResolvedType, ofGenericAll bs (toGenericAll ts) = ts ↔ ∀ t ∈ ts, t.IsPlain
  | [] => by simp [toGenericAll, ofGenericAll]
  | t :: ts => by
    rw [toGenericAll, ofGenericAll, cons.injEq, ofGeneric_toGeneric_eq_iff bs t,
      ofGenericAll_toGenericAll_eq_iff bs ts, forall_mem_cons]

end

/-! ## Texts -/

/-- The text of a written form: the arguments stand after the name under all arrays, and the
brackets of the arrays come last. -/
lemma display_toGeneric_raw (args : List GenericType) :
    ∀ raw : TypeInfo, (raw.toGeneric args).display =
      raw.base.name ++ (if args.isEmpty then "" else
        "<" ++ joinWith ", " (GenericType.displayAll args) ++ ">") ++ timesText raw.dimensions "[]"
  | .declared name primitive params supertypes => by
    cases args with
    | nil => simp [TypeInfo.toGeneric, GenericType.ofArguments, GenericType.display, TypeInfo.base,
        TypeInfo.dimensions, timesText]
    | cons a args =>
      simp [TypeInfo.toGeneric, GenericType.ofArguments, GenericType.display, TypeInfo.base,
        TypeInfo.dimensions, timesText, String.append_assoc]
  | .array component own supertypes => by
    rw [TypeInfo.toGeneric, GenericType.display, display_toGeneric_raw args component,
      TypeInfo.base, TypeInfo.dimensions, timesText_succ, String.append_assoc]

mutual

/-- **The written form has the text of the type.** -/
theorem display_toGeneric : ∀ t : ResolvedType, t.toGeneric.display = t.display
  | mk raw args => by
    have hempty : (toGenericAll args).isEmpty = args.isEmpty := by cases args <;> rfl
    rw [toGeneric, display_toGeneric_raw, display, hempty, displayAll_toGenericAll args]

/-- The written forms of several types have the texts of the types. -/
theorem displayAll_toGenericAll :
    ∀ ts : List ResolvedType, GenericType.displayAll (toGenericAll ts) = displayAll ts
  | [] => rfl
  | t :: ts => by
    rw [toGenericAll, GenericType.displayAll, displayAll, display_toGeneric t,
      displayAll_toGenericAll ts]

end

/-- **A type is not lost in its written form**: in every context that is resolved to the same type,
and it has the same text. Types are the same if their names and arguments are; the resolved type has
even the same parameters and supertypes everywhere, exactly if no array has some of its own. -/
theorem toGeneric_lossless (t : ResolvedType) (context : TypeInfo) :
    (resolve t.toGeneric context).same t = true ∧ t.toGeneric.display = t.display ∧
      (resolve t.toGeneric context = t ↔ t.IsPlain) :=
  ⟨same_ofGeneric_toGeneric _ t, display_toGeneric t, ofGeneric_toGeneric_eq_iff _ t⟩

/-- Arrays around a type with arguments, and in its arguments. -/
example :
    let numbers := mk (builtin "Vec").arrayOf [ofRaw (builtin "i32").arrayOf]
    let tables := mk (builtin "HashMap").arrayOf.arrayOf [ofRaw (builtin "String"), numbers]
    tables.toGeneric.display = "HashMap<String, Vec<i32[]>[]>[][]" := by cbv

end ResolvedType

end Beans
