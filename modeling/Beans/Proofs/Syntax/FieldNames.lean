import Mathlib.Tactic.Common
import Beans.Proofs.Syntax.Declarations
import Beans.Proofs.Syntax.Words

/-!
# Names of fields

The words among the tokens of a text are spellings of identifiers, at any depth. So is the name of a
field that is read from them, and it is no keyword but perhaps the low line.

## Main definitions

* `Beans.Syntax.Tok.Spelt` — the words in a token are spellings of identifiers.
* `Beans.Syntax.IsFieldName` — a text that a field can have as its name.
* `Beans.Syntax.Declaration.FieldsNamed` — the fields of a declaration have such names.

## Main results

* `Beans.Syntax.spelt_of_readToks` — the words of a text are spellings of identifiers.
* `Beans.Syntax.fieldsNamed_of_readSource?`, `Beans.Syntax.fieldsNamed_of_readDeclaration?` — the
  fields of what is read are named.
-/

set_option autoImplicit false

namespace Beans.Syntax

/-! ## Tokens -/

/-- The words in a token are spellings of identifiers. -/
inductive Tok.Spelt : Tok → Prop
  | ident {name : String} (h : IsSpelling name) (lines : Lines) : Spelt (.ident name lines)
  | punct (c : Char) (joint : Bool) (lines : Lines) : Spelt (.punct c joint lines)
  | literal (text : String) (lines : Lines) : Spelt (.literal text lines)
  | group (d : Delimiter) {items : List Tok} (hitems : ∀ t ∈ items, Spelt t) (lines : Lines) :
      Spelt (.group d items lines)

/-- The same for a flat piece of a text. -/
def Lexeme.Spelt : Lexeme → Prop
  | .leaf t => t.Spelt
  | .opening .. | .closing .. => True

/-- The tokens of a documentation comment have one word. -/
lemma spelt_docToks (inner : Bool) (docs : String) (lines : Lines) :
    ∀ t ∈ docToks inner docs lines, t.Spelt := by
  have hdoc : IsSpelling "doc" :=
    .inl ⟨'d', ['o', 'c'], rfl, by decide, List.all_eq_true.mp (by decide)⟩
  have hattribute : ∀ t ∈ [Tok.ident "doc" lines, .punct '=' false lines,
      .literal (Text.quoted docs) lines], t.Spelt :=
    List.forall_mem_cons.mpr ⟨.ident hdoc _, List.forall_mem_cons.mpr ⟨.punct .., by
      exact List.forall_mem_singleton.mpr (.literal ..)⟩⟩
  intro t ht
  rcases List.mem_append.mp ht with ht | ht
  · rcases List.mem_append.mp ht with ht | ht
    · rw [List.mem_singleton.mp ht]
      exact .punct ..
    · cases inner with
      | true =>
        rw [List.mem_singleton.mp ht]
        exact .punct ..
      | false => cases ht
  · rw [List.mem_singleton.mp ht]
    exact .group _ hattribute _

lemma spelt_of_scanLeaf {line : Nat} {cs taken rest : List Char} {t : Tok}
    (h : scanLeaf line cs = some (t, taken, rest)) : t.Spelt := by
  cases leafCut_of_scanLeaf h with
  | literal => exact .literal ..
  | punct => exact .punct ..
  | ident hword _ => exact .ident (isSpelling_of_scanIdentifier hword) _

/-- The words among the pieces of a text are spellings of identifiers. -/
lemma spelt_of_lexFrom {fuel line : Nat} {cs : List Char} {list : List Lexeme}
    (h : lexFrom fuel line cs = some list) : ∀ l ∈ list, l.Spelt := by
  fun_induction lexFrom fuel line cs generalizing list with
  | case1 =>
    cases h
    exact List.forall_mem_nil _
  | case2 => cases h
  | case3 fuel line c cs taken rest hgap ih => exact ih h
  | case4 fuel line c cs inner docs taken rest hgap last =>
    rename_i ih
    obtain ⟨others, hothers, rfl⟩ := Option.map_eq_some_iff.mp h
    exact List.forall_mem_append.mpr
      ⟨List.forall_mem_map.mpr (spelt_docToks _ _ _), ih hothers⟩
  | case5 fuel line c cs _ hmark ih =>
    obtain ⟨others, hothers, rfl⟩ := Option.map_eq_some_iff.mp h
    exact List.forall_mem_cons.mpr ⟨.literal .., ih hothers⟩
  | case6 fuel line c cs _ _ d hd ih | case7 fuel line c cs _ _ d hd _ ih =>
    obtain ⟨others, hothers, rfl⟩ := Option.map_eq_some_iff.mp h
    exact List.forall_mem_cons.mpr ⟨trivial, ih hothers⟩
  | case8 fuel line c cs _ _ _ _ ih =>
    obtain ⟨⟨t, taken, rest⟩, hleaf, h⟩ := Option.bind_eq_some_iff.mp h
    obtain ⟨others, hothers, rfl⟩ := Option.map_eq_some_iff.mp h
    exact List.forall_mem_cons.mpr ⟨spelt_of_scanLeaf hleaf, ih taken rest hothers⟩

/-- **The words of a text are spellings of identifiers.** -/
theorem spelt_of_readToks {text : String} {toks : List Tok} (h : readToks text = some toks) :
    ∀ t ∈ toks, t.Spelt := by
  obtain ⟨pieces, hpieces, htrees⟩ := Option.bind_eq_some_iff.mp h
  exact forall_mem_of_treesFrom (Q := Lexeme.Spelt) (fun _ => id)
    (fun d _ _ _ hitems _ => .group d hitems _) (List.forall_mem_nil _) (List.forall_mem_nil _)
    (spelt_of_lexFrom hpieces) htrees

/-! ## Fields -/

/-- A text that a field can have as its name: an identifier or the low line. -/
def IsFieldName (name : String) : Prop := IsSpelling name ∧ (name ∉ keywords ∨ name = "_")

/-- A field has a name that a field can have. -/
def Field.Named (f : Field) : Prop := ∃ name, f.name = some name ∧ IsFieldName name

/-- The same for named fields. -/
def Fields.AllNamed : Fields → Prop
  | .named fields _ => ∀ f ∈ fields, f.Named
  | .unnamed _ | .unit => True

/-- The same for the named fields of a struct. -/
def Declaration.FieldsNamed (d : Declaration) : Prop :=
  match d.data with
  | .struct fields => fields.AllNamed
  | .enum | .union => True

namespace Reader

/-- Something holds of a result if the tokens that were ahead are spelt. -/
def IfSpelt {α : Type} (p : α → Prop) (ts : List Tok) (a : α) : Prop :=
  (∀ t ∈ ts, t.Spelt) → p a

lemma upward_ifSpelt {α : Type} (p : α → Prop) : Upward (IfSpelt p) :=
  fun _ _ _ hts h hspelt => h fun t ht => hspelt t (hts.subset ht)

lemma ensures_anyIdent :
    anyIdent.Ensures fun ts name => ∃ lines rest, ts = .ident name lines :: rest := by
  intro t name t' h
  obtain ⟨_ | ⟨first, rest⟩, written⟩ := t
  · cases h
  · cases first with
    | ident word lines =>
      cases h
      exact ⟨lines, rest, rfl⟩
    | punct | literal | group => cases h

lemma ensures_identOrBlank : identOrBlank.Ensures (IfSpelt IsFieldName) := by
  intro t name t' h hspelt
  obtain ⟨_, t₁, hensure, hany⟩ := run_bind_eq_some.mp h
  rw [run_ensure] at hensure
  split at hensure
  case isFalse => cases hensure
  case isTrue hat =>
    cases hensure
    obtain ⟨lines, rest, hahead⟩ := ensures_anyIdent hany
    rw [hahead] at hat hspelt
    have hname : keywords.contains name = false ∨ name = "_" := by
      simpa [atIdent, atWord] using hat
    refine ⟨?_, hname.imp_left fun hnot hmem => ?_⟩
    · cases hspelt _ List.mem_cons_self with | ident hspelling => exact hspelling
    · rw [List.contains_iff_mem.mpr hmem] at hnot
      cases hnot

/-- The fields that a layer reads are named. -/
lemma ensures_fieldIn (f : Forms) : (fieldIn f).Ensures (IfSpelt Field.Named) := by
  have hup := upward_ifSpelt Field.Named
  refine Ensures.after hup _ fun line => Ensures.after hup _ fun attributes =>
    Ensures.after hup _ fun ⟨vis, visLine⟩ => Ensures.after hup _ fun nameLine =>
      Ensures.bind ensures_identOrBlank fun ts name hname => ?_
  have hup' := upward_const fun f : Field => IfSpelt Field.Named ts f
  refine Ensures.after hup' _ fun _ => Ensures.after hup' _ fun tyLine =>
    Ensures.ite (fun _ => ?_) fun _ => ?_
  all_goals exact Ensures.after hup' _ fun ty => Ensures.pure fun _ hspelt => ⟨name, rfl, hname hspelt⟩

/-- The fields that any layer of the grammar reads are named. -/
lemma ensures_field (layers : Nat) : (forms layers).field.Ensures (IfSpelt Field.Named) := by
  cases layers with
  | zero => exact ensures_fail
  | succ n => exact ensures_fieldIn (forms n)

section

variable {f : Forms} (hf : f.field.Ensures (IfSpelt Field.Named))

include hf

/-- Fields in braces are named if those of the layer are. -/
lemma named_fieldsIn :
    (fieldsIn .brace f.field).Ensures (IfSpelt fun p => ∀ g ∈ p.1, g.Named) := by
  have hup := upward_ifSpelt fun p : List Field × Nat => ∀ g ∈ p.1, g.Named
  have hlist : (commaList f.field).Ensures fun ts list => ∀ g ∈ list, IfSpelt Field.Named ts g :=
    Ensures.after (upward_ifSpelt Field.Named).forall_mem _ fun _ =>
      Ensures.roundsSeparated (upward_ifSpelt _) hf _ _ _
  refine Ensures.after hup _ fun _ => Ensures.bind (ensures_group_inside .brace hlist)
    fun ts list hgroup => Ensures.pure fun _ hspelt g hg => ?_
  obtain ⟨items, lines, rest, rfl, hnamed⟩ := hgroup
  cases hspelt _ List.mem_cons_self with
  | group _ hitems => exact hnamed g hg hitems

/-- So are those of a struct. -/
lemma named_structRest : (structRest f).Ensures (IfSpelt fun r => r.1.AllNamed) := by
  have hup := upward_ifSpelt fun r : Fields × Nat × Option (List Tok) => r.1.AllNamed
  refine Ensures.after hup _ fun before => Ensures.after hup _ fun ts => ?_
  refine Ensures.ite (fun _ => ?_) fun _ => Ensures.ite (fun _ => ?_) fun _ => ?_
  · exact Ensures.after hup _ fun _ => Ensures.after hup _ fun _ => Ensures.after hup _ fun _ =>
      Ensures.after hup _ fun _ => Ensures.pure fun _ _ => trivial
  · exact Ensures.bind (named_fieldsIn hf) fun ts ⟨list, closing⟩ h => Ensures.pure fun _ => h
  · exact Ensures.after hup _ fun _ => Ensures.after hup _ fun _ => Ensures.pure fun _ _ => trivial

/-- And those of a declaration. -/
lemma named_declarationRest (attributes : List Attribute) (vis : Visibility) (line : Nat) :
    (declarationRest f attributes vis line).Ensures (IfSpelt Declaration.FieldsNamed) := by
  have hup := upward_ifSpelt Declaration.FieldsNamed
  refine Ensures.after hup _ fun kind => Ensures.after hup _ fun nameLine =>
    Ensures.after hup _ fun name => Ensures.after hup _ fun generics => ?_
  refine Ensures.ite (fun _ => ?_) fun _ => ?_
  · exact Ensures.bind (named_structRest hf) fun ts ⟨fields, last, conditions⟩ h =>
      Ensures.pure fun _ => h
  · refine Ensures.after hup _ fun conditions => Ensures.after hup _ fun ts => ?_
    refine Ensures.ite (fun _ => ?_) fun _ => Ensures.ite (fun _ => ?_) fun _ => ensures_fail
    · exact Ensures.after hup _ fun _ => Ensures.pure fun _ _ => trivial
    · exact Ensures.after hup _ fun _ => Ensures.pure fun _ _ => trivial

end

end Reader

/-! ## Texts -/

/-- **The fields of the declarations of a file are named.** -/
theorem fieldsNamed_of_readSource? {text : String} {file : SourceFile}
    (h : readSource? text = some file) :
    ∀ item ∈ file, ∀ d ∈ item.declaration?, d.FieldsNamed := by
  obtain ⟨toks, htoks, hfile⟩ := declarations_of_readSource? (Reader.upward_ifSpelt _)
    (fun layers => Reader.named_declarationRest (Reader.ensures_field layers)) h
  exact fun item hitem d hd => hfile item hitem d hd (spelt_of_readToks htoks)

/-- The fields of a declaration on its own are named. -/
theorem fieldsNamed_of_readDeclaration? {text : String} {d : Declaration}
    (h : readDeclaration? text = some d) : d.FieldsNamed := by
  obtain ⟨toks, htoks, hnamed⟩ := declaration_of_readDeclaration? (Reader.upward_ifSpelt _)
    (fun layers => Reader.named_declarationRest (Reader.ensures_field layers)) h
  exact hnamed (spelt_of_readToks htoks)

end Beans.Syntax
