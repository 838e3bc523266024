import Mathlib.Tactic.Common
import Beans.Generation.Code
import Beans.Proofs.Text.Lines
import Beans.Region.Imports

/-!
# Import lines

The names to import for generated code are names of items of the runtime library. So the line that
imports them is on one line, and it is none of the lines that do not count.

## Main results

* `Beans.Generated.exists_head` — a name to import is the name of an item.
* `Beans.Generated.propertyType_mem_imports` — code needs a name in any case.
* `Beans.singleLine_importLine` — an import of names of items is on one line.
* `Beans.trim_importLine_ne` — an import is no inlining hint.
-/

set_option autoImplicit false

namespace Beans

open Text

/-! ## Names to import -/

lemma mem_of_mem_dedupNeighbours {name : String} {names : List String}
    (h : name ∈ dedupNeighbours names) : name ∈ names := by
  fun_induction dedupNeighbours names with
  | case1 => exact h
  | case2 rest next ih => exact List.mem_cons_of_mem _ (ih h)
  | case3 s next rest hne ih =>
    rcases List.mem_cons.mp h with rfl | h
    · exact List.mem_cons_self
    · exact List.mem_cons_of_mem _ (ih h)
  | case4 => exact h

/-- The names to import for items are names of items. -/
lemma exists_head_of_mem_importsFor {mode : Mode} {items : List RuntimeItem} {name : String}
    (h : name ∈ importsFor mode items) : ∃ item : RuntimeItem, item.head = name := by
  cases mode with
  | derive => simp [importsFor] at h
  | source =>
    have hitem : name ∈ items.map RuntimeItem.head := by
      simpa using mem_of_mem_dedupNeighbours h
    obtain ⟨item, -, hname⟩ := List.mem_map.mp hitem
    exact ⟨item, hname⟩

/-- What is generated for a declaration is generated for a resolved bean. -/
lemma eq_generate_of_ofDeclaration {d : Syntax.Declaration} {supplied : List String} {s : Settings}
    {mode : Mode} {generated : Generated}
    (h : Generated.ofDeclaration d supplied s mode = .ok generated) :
    ∃ bean : BeanModel, generated = bean.generate mode := by
  unfold Generated.ofDeclaration at h
  cases hdecl : BeanDecl.ofDeclaration d with
  | error faults => simp [hdecl, bind, Except.bind] at h
  | ok decl =>
    simp only [hdecl, bind, Except.bind] at h
    split at h
    · split at h
      · cases h
      · next bean hbean => exact ⟨bean, (Except.ok.inj h).symm⟩
    · cases h

/-- A name to import for generated code is the name of an item. -/
theorem Generated.exists_head {d : Syntax.Declaration} {supplied : List String} {s : Settings}
    {mode : Mode} {generated : Generated}
    (h : Generated.ofDeclaration d supplied s mode = .ok generated) {name : String}
    (hname : name ∈ generated.imports) : ∃ item : RuntimeItem, item.head = name := by
  obtain ⟨bean, rfl⟩ := eq_generate_of_ofDeclaration h
  exact exists_head_of_mem_importsFor hname

lemma mem_dedupNeighbours_of_mem {name : String} {names : List String} (h : name ∈ names) :
    name ∈ dedupNeighbours names := by
  fun_induction dedupNeighbours names with
  | case1 => exact h
  | case2 rest next ih =>
    refine ih ?_
    rcases List.mem_cons.mp h with rfl | h
    · exact List.mem_cons_self
    · exact h
  | case3 s next rest hne ih =>
    rcases List.mem_cons.mp h with rfl | h
    · exact List.mem_cons_self
    · exact List.mem_cons_of_mem _ (ih h)
  | case4 => exact h

/-- Code names the trait of properties, at the least in its first line. -/
lemma BeanModel.propertyType_mem_items (b : BeanModel) (mode : Mode) :
    .propertyType ∈ CodeDraft.items (b.code mode) := by
  have hheader : .propertyType ∈ (b.implHeader none b.selfTy).items := by
    refine List.mem_filterMap.mpr ⟨.need .propertyType, ?_, rfl⟩
    have hgenerics : .need .propertyType ∈ b.implGenerics.pieces := List.mem_cons_self
    repeat first
      | exact List.mem_append_right _ hgenerics
      | refine List.mem_append_left _ ?_
  exact List.mem_flatMap.mpr ⟨_, List.mem_cons_self, hheader⟩

/-- The trait of properties is among the names to import for code in a source file. -/
theorem Generated.propertyType_mem_imports {d : Syntax.Declaration} {supplied : List String}
    {s : Settings} {generated : Generated}
    (h : Generated.ofDeclaration d supplied s .source = .ok generated) :
    RuntimeItem.propertyType.head ∈ generated.imports := by
  obtain ⟨bean, rfl⟩ := eq_generate_of_ofDeclaration h
  refine mem_dedupNeighbours_of_mem (List.mem_mergeSort.mpr ?_)
  exact List.mem_map_of_mem (bean.propertyType_mem_items .source)

/-! ## The line -/

lemma singleLine_append {a b : String} (ha : SingleLine a) (hb : SingleLine b) :
    SingleLine (a ++ b) := by
  intro c hc
  rw [String.toList_append, List.mem_append] at hc
  exact hc.elim (ha c) (hb c)

lemma singleLine_head (item : RuntimeItem) : SingleLine item.head := by
  cases item <;> decide +kernel

lemma singleLine_joinWith {sep : String} (hsep : SingleLine sep) {texts : List String}
    (htexts : ∀ t ∈ texts, SingleLine t) : SingleLine (joinWith sep texts) := by
  fun_induction joinWith sep texts with
  | case1 => simp [SingleLine]
  | case2 s => exact htexts s List.mem_cons_self
  | case3 s rest hne ih =>
    obtain ⟨hs, hrest⟩ := List.forall_mem_cons.mp htexts
    exact singleLine_append (singleLine_append hs hsep) (ih hrest)

/-- An import of names on one line each is on one line. -/
theorem singleLine_importLine {names : List String} (h : ∀ n ∈ names, SingleLine n) :
    SingleLine (importLine names) := by
  have huse : SingleLine "use " := by decide +kernel
  have hname : SingleLine runtimeName := by decide +kernel
  have hpath : SingleLine "::" := by decide +kernel
  have hend : SingleLine ";" := by decide +kernel
  have hopen : SingleLine "::\x7b" := by decide +kernel
  have hcomma : SingleLine ", " := by decide +kernel
  have hclose : SingleLine "\x7d;" := by decide +kernel
  unfold importLine
  split
  · exact singleLine_append (singleLine_append (singleLine_append (singleLine_append huse hname)
      hpath) (h _ List.mem_cons_self)) hend
  · exact singleLine_append (singleLine_append (singleLine_append (singleLine_append huse hname)
      hopen) (singleLine_joinWith hcomma h)) hclose

/-- Trimming keeps a first character that is not blank. -/
lemma head_trim {s : String} {c : Char} {cs : List Char} (hs : s.toList = c :: cs)
    (hc : isBlank c = false) : (trim s).toList.head? = some c := by
  simp [trim, dropBlank, hs, hc, dropBlankEnd]

/-- An import is no inlining hint. -/
theorem trim_importLine_ne (names : List String) : trim (importLine names) ≠ "#[inline]" := by
  obtain ⟨cs, hcs⟩ : ∃ cs, (importLine names).toList = 'u' :: cs := by
    unfold importLine
    split <;> exact ⟨_, by simp [String.toList_append]; rfl⟩
  intro heq
  have hhead := head_trim hcs (by decide)
  rw [heq] at hhead
  exact absurd hhead (by decide)

end Beans
