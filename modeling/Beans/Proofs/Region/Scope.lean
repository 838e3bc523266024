import Mathlib.Tactic.Common
import Beans.Region.Imports
import Beans.Settings

/-!
# Names in scope

Braces in an import are short for several imports, each with a path of its own. Without braces it is
plain what an import brings into scope: the name at its end, the name that it is renamed to, the name
before a `self`, nothing if it is renamed to `_`, and everything behind its path if a star is at its
end. The names that are read off an import with braces are compared with these.

They agree but for some ways of writing an import. A `self` or `_` is itself taken for a name, a name
with the mark of raw identifiers is taken for another one than without, and a star is only seen
directly behind the name of the library. So what is missing is said to be missing, but some of what
is in scope may be said to be missing too.

## Main definitions

* `Beans.Syntax.Import` — an import without braces.
* `Beans.Syntax.UseTree.imports` — the imports that a tree is short for.
* `Beans.Syntax.Import.binds?`, `Beans.Syntax.Import.TakesAllOf` — what an import brings into scope.
* `Beans.Syntax.Import.Plain` — an import that is written in none of those ways.

## Main results

* `Beans.Syntax.UseTree.bound_eq`, `Beans.Syntax.UseTree.takesAll_iff` — what is read off a tree, by
  the imports that it is short for.
* `Beans.names_in_scope` — which names are read off the imports of a file, and which are missing.
-/

set_option autoImplicit false

namespace Beans.Syntax

/-! ## Imports without braces -/

/-- What an import takes from behind its path. -/
inductive Taken where
  | name (text : String)
  | rename (text bound : String)
  | all
deriving DecidableEq

/-- An import without braces. -/
structure Import where
  /-- The path. -/
  path : List String
  /-- What is taken from behind it. -/
  taken : Taken
  /-- Whether braces stood between the path and what is taken. -/
  braced : Bool
deriving DecidableEq

namespace Import

/-- An import behind one more name. -/
def within (name : String) (i : Import) : Import := { i with path := name :: i.path }

/-- An import in braces. -/
def inBraces (i : Import) : Import := { i with braced := i.braced || i.path.isEmpty }

/-- The name at the end of an import, as it is written. -/
def written? (i : Import) : Option String :=
  match i.taken with
  | .name text => some text
  | .rename _ bound => some bound
  | .all => none

/-- The name that an import brings into scope. -/
def binds? (i : Import) : Option String :=
  match i.taken with
  | .name text =>
    if text = "self" then i.path.getLast?.map withoutRawMark else some (withoutRawMark text)
  | .rename _ bound => if bound = "_" then none else some (withoutRawMark bound)
  | .all => none

/-- An import takes everything that stands directly in a library. -/
def TakesAllOf (library : String) (i : Import) : Prop :=
  i.taken = .all ∧ i.path.map withoutRawMark = [library]

instance (library : String) (i : Import) : Decidable (i.TakesAllOf library) :=
  inferInstanceAs (Decidable (_ ∧ _))

end Import

mutual

/-- The imports that a tree is short for. -/
def UseTree.imports : UseTree → List Import
  | .path name rest => rest.imports.map (Import.within name)
  | .name text => [⟨[], .name text, false⟩]
  | .rename text bound => [⟨[], .rename text bound, false⟩]
  | .glob => [⟨[], .all, false⟩]
  | .group trees => (importsOfAll trees).map Import.inBraces
termination_by structural tree => tree

/-- The imports that several trees are short for. -/
def importsOfAll : List UseTree → List Import
  | [] => []
  | tree :: rest => tree.imports ++ importsOfAll rest
termination_by structural trees => trees

end

/-- The imports of a file. -/
def SourceFile.imports (file : SourceFile) : List Import := importsOfAll (SourceFile.uses file)

/-! ## What is read off a tree -/

lemma filterMap_written?_within (name : String) (imports : List Import) :
    (imports.map (Import.within name)).filterMap Import.written? =
      imports.filterMap Import.written? := by
  rw [List.filterMap_map]
  rfl

lemma filterMap_written?_inBraces (imports : List Import) :
    (imports.map Import.inBraces).filterMap Import.written? =
      imports.filterMap Import.written? := by
  rw [List.filterMap_map]
  rfl

mutual

/-- The names that are read off a tree stand at the ends of its imports. -/
theorem UseTree.bound_eq : ∀ tree : UseTree, tree.bound = tree.imports.filterMap Import.written?
  | .path name rest => by
    rw [UseTree.bound, UseTree.imports, filterMap_written?_within, rest.bound_eq]
  | .name _ => rfl
  | .rename _ _ => rfl
  | .glob => rfl
  | .group trees => by
    rw [UseTree.bound, UseTree.imports, filterMap_written?_inBraces, boundByAll_eq trees]

/-- So do those that are read off several trees. -/
theorem boundByAll_eq :
    ∀ trees : List UseTree, boundByAll trees = (importsOfAll trees).filterMap Import.written?
  | [] => rfl
  | tree :: rest => by
    rw [boundByAll, importsOfAll, List.filterMap_append, tree.bound_eq, boundByAll_eq rest]

end

/-- Only a star by itself is a star with nothing in front of it. -/
lemma UseTree.star_mem_imports_iff {tree : UseTree} :
    ⟨[], .all, false⟩ ∈ tree.imports ↔ tree = .glob := by
  cases tree with
  | path name rest => simp [imports, Import.within]
  | name text => simp [imports]
  | rename text bound => simp [imports]
  | glob => simp [imports]
  | group trees =>
    simp only [imports, List.mem_map, reduceCtorEq, iff_false, not_exists, not_and]
    intro i _ hi
    obtain ⟨hpath, -, hbraced⟩ := (Import.mk.injEq ..).mp hi
    simp [hpath] at hbraced

mutual

/-- A star is seen directly behind the name of a library, with no braces between them. -/
theorem UseTree.takesAll_iff (library : String) : ∀ tree : UseTree,
    tree.takesAll library = true ↔ ⟨[library], .all, false⟩ ∈ tree.imports
  | .path name rest => by
    have hwithin : ⟨[library], .all, false⟩ ∈ (UseTree.path name rest).imports ↔
        name = library ∧ rest = .glob := by
      rw [← UseTree.star_mem_imports_iff, UseTree.imports, List.mem_map]
      constructor
      · rintro ⟨i, hi, heq⟩
        obtain ⟨hpath, htaken, hbraced⟩ := (Import.mk.injEq ..).mp heq
        obtain ⟨rfl, hnil⟩ := List.cons.inj hpath
        exact ⟨rfl, (Import.mk.injEq ..).mpr ⟨hnil, htaken, hbraced⟩ ▸ hi⟩
      · rintro ⟨rfl, hi⟩
        exact ⟨_, hi, rfl⟩
    rw [hwithin]
    cases rest with
    | glob => simp [UseTree.takesAll]
    | path | name | rename | group => simp [UseTree.takesAll]
  | .name _ => by simp [UseTree.takesAll, UseTree.imports]
  | .rename _ _ => by simp [UseTree.takesAll, UseTree.imports]
  | .glob => by simp [UseTree.takesAll, UseTree.imports]
  | .group trees => by
    rw [UseTree.takesAll, anyTakesAll_iff library trees, UseTree.imports, List.mem_map]
    constructor
    · exact fun hi => ⟨_, hi, rfl⟩
    · rintro ⟨⟨path, taken, braced⟩, hi, heq⟩
      obtain ⟨rfl, rfl, hbraced⟩ := (Import.mk.injEq ..).mp heq
      obtain rfl : braced = false := by simpa using hbraced
      exact hi

/-- So it is in several trees. -/
theorem anyTakesAll_iff (library : String) : ∀ trees : List UseTree,
    anyTakesAll library trees = true ↔ ⟨[library], .all, false⟩ ∈ importsOfAll trees
  | [] => by simp [anyTakesAll, importsOfAll]
  | tree :: rest => by
    rw [anyTakesAll, importsOfAll, Bool.or_eq_true, List.mem_append, tree.takesAll_iff library,
      anyTakesAll_iff library rest]

end

/-! ## Imports that mean what they say -/

/-- A text that is a name as it is written. -/
def IsPlainName (text : String) : Prop := text ≠ "self" ∧ text ≠ "_" ∧ withoutRawMark text = text

instance (text : String) : Decidable (IsPlainName text) := inferInstanceAs (Decidable (_ ∧ _ ∧ _))

namespace Import

variable {i : Import} {text library : String}

/-- A name of an import stands at its end, and a star directly behind its path. -/
structure Plain (i : Import) : Prop where
  /-- The end is a name. -/
  name : ∀ text ∈ i.written?, IsPlainName text
  /-- A star has no braces, and a path without the mark of raw identifiers, in front of it. -/
  star : i.taken = .all → i.braced = false ∧ ∀ part ∈ i.path, withoutRawMark part = part

instance (i : Import) : Decidable i.Plain :=
  decidable_of_iff ((∀ text ∈ i.written?, IsPlainName text) ∧
      (i.taken = .all → i.braced = false ∧ ∀ part ∈ i.path, withoutRawMark part = part))
    ⟨fun h => ⟨h.1, h.2⟩, fun h => ⟨h.name, h.star⟩⟩

/-- What a plain import brings into scope by name is what is written at its end. -/
lemma Plain.binds?_eq (h : i.Plain) : i.binds? = i.written? := by
  obtain ⟨path, taken, braced⟩ := i
  cases taken with
  | name text =>
    obtain ⟨hself, -, hmark⟩ := h.name text rfl
    simp [binds?, written?, hself, hmark]
  | rename text bound =>
    obtain ⟨-, hblank, hmark⟩ := h.name bound rfl
    simp [binds?, written?, hblank, hmark]
  | all => rfl

/-- With a name at its end an import is plain. -/
lemma plain_of_written? (hwritten : i.written? = some text) (htext : IsPlainName text) : i.Plain where
  name other hother := by
    obtain rfl := Option.some.inj (hwritten.symm.trans hother)
    exact htext
  star hall := by simp [written?, hall] at hwritten

/-- The import of all of a library by its name is the only plain one. -/
lemma plain_takesAllOf_iff (hlibrary : withoutRawMark library = library) :
    i.Plain ∧ i.TakesAllOf library ↔ i = ⟨[library], .all, false⟩ := by
  constructor
  · rintro ⟨hplain, hall, hpath⟩
    obtain ⟨hbraced, hmark⟩ := hplain.star hall
    rw [List.map_congr_left hmark, List.map_id'] at hpath
    exact (Import.mk.injEq ..).mpr ⟨hpath, hall, hbraced⟩
  · rintro rfl
    exact ⟨⟨by simp [written?], by simp [hlibrary]⟩, by simp [TakesAllOf, hlibrary]⟩

end Import

end Beans.Syntax

namespace Beans

open Syntax

/-! ## Names in scope in a file -/

section

variable {file : SourceFile} {name : String}

/-- An import brings an item of the runtime library into scope: by its name, or with all others. -/
def Syntax.Import.Brings (name : String) (i : Import) : Prop :=
  i.binds? = some name ∨ i.TakesAllOf runtimeName

instance (name : String) (i : Import) : Decidable (i.Brings name) :=
  inferInstanceAs (Decidable (_ ∨ _))

/-- An item of the runtime library is in scope in a file. -/
def InScope (file : SourceFile) (name : String) : Prop :=
  ∃ i ∈ SourceFile.imports file, i.Brings name

/-- A plain import brings the item into scope. -/
def PlainlyInScope (file : SourceFile) (name : String) : Prop :=
  ∃ i ∈ SourceFile.imports file, i.Plain ∧ i.Brings name

instance : Decidable (InScope file name) := inferInstanceAs (Decidable (∃ i ∈ _, _))

instance : Decidable (PlainlyInScope file name) := inferInstanceAs (Decidable (∃ i ∈ _, _))

lemma PlainlyInScope.inScope (h : PlainlyInScope file name) : InScope file name := by
  obtain ⟨i, hi, -, hbrings⟩ := h
  exact ⟨i, hi, hbrings⟩

lemma mem_boundNames_iff : name ∈ SourceFile.boundNames file ↔
    ∃ i ∈ SourceFile.imports file, i.written? = some name := by
  rw [SourceFile.boundNames, boundByAll_eq, List.mem_filterMap]
  rfl

/-- A name is read off a file if a plain import brings it into scope. -/
lemma mem_boundNames_iff_plain (hname : IsPlainName name) : name ∈ SourceFile.boundNames file ↔
    ∃ i ∈ SourceFile.imports file, i.Plain ∧ i.binds? = some name := by
  rw [mem_boundNames_iff]
  refine exists_congr fun i => and_congr_right fun _ => ⟨fun hwritten => ?_, fun h => ?_⟩
  · have hplain := Import.plain_of_written? hwritten hname
    exact ⟨hplain, hplain.binds?_eq.trans hwritten⟩
  · exact h.1.binds?_eq ▸ h.2

lemma importsRuntime_iff : importsRuntime file = true ↔
    ∃ i ∈ SourceFile.imports file, i.Plain ∧ i.TakesAllOf runtimeName := by
  have hlibrary : withoutRawMark runtimeName = runtimeName := by decide +kernel
  simp only [Import.plain_takesAllOf_iff hlibrary, exists_eq_right]
  exact anyTakesAll_iff _ _

/-- An item is not said to be missing if a plain import brings it into scope. -/
lemma plainlyInScope_iff (hname : IsPlainName name) : PlainlyInScope file name ↔
    importsRuntime file = true ∨ name ∈ SourceFile.boundNames file := by
  rw [importsRuntime_iff, mem_boundNames_iff_plain hname, ← exists_or]
  refine exists_congr fun i => ?_
  rw [← and_or_left, ← and_or_left, Import.Brings, or_comm]

lemma missingNames_eq {needed : List String} (hneeded : ∀ name ∈ needed, IsPlainName name) :
    missingNames file needed = needed.filter fun name => ¬ PlainlyInScope file name := by
  unfold missingNames
  by_cases hall : importsRuntime file = true
  · rw [if_pos hall, eq_comm, List.filter_eq_nil_iff]
    intro name hname
    simp [(plainlyInScope_iff (hneeded name hname)).mpr (.inl hall)]
  · rw [if_neg hall]
    refine List.filter_congr fun name hname => ?_
    simp [plainlyInScope_iff (hneeded name hname), hall]

end

/-- **The names that are read off the imports of a file.** A name is read if and only if it is in
scope by a plain import; besides, a `self`, a `_` and a name with its mark are read as they are
written. All of the library is seen to be imported if and only if a plain import takes all of it. The
items that are said to be missing are those that no plain import brings into scope: all that are not
in scope, and no others if and only if plain imports bring the rest into scope. -/
theorem names_in_scope (file : SourceFile) {needed : List String}
    (hneeded : ∀ name ∈ needed, IsPlainName name) :
    (∀ name, IsPlainName name → (name ∈ SourceFile.boundNames file ↔
      ∃ i ∈ SourceFile.imports file, i.Plain ∧ i.binds? = some name)) ∧
    (∀ text, ¬ IsPlainName text → (text ∈ SourceFile.boundNames file ↔
      ∃ i ∈ SourceFile.imports file, i.written? = some text)) ∧
    (importsRuntime file = true ↔
      ∃ i ∈ SourceFile.imports file, i.Plain ∧ i.TakesAllOf runtimeName) ∧
    missingNames file needed = needed.filter (fun name => ¬ PlainlyInScope file name) ∧
    (missingNames file needed = needed.filter (fun name => ¬ InScope file name) ↔
      ∀ name ∈ needed, InScope file name → PlainlyInScope file name) := by
  refine ⟨fun _ => mem_boundNames_iff_plain, fun _ _ => mem_boundNames_iff, importsRuntime_iff,
    missingNames_eq hneeded, ?_⟩
  rw [missingNames_eq hneeded]
  constructor
  · intro hsame name hname hscope
    by_contra hplain
    have hmem : name ∈ needed.filter fun name => ¬ PlainlyInScope file name :=
      List.mem_filter.mpr ⟨hname, decide_eq_true hplain⟩
    rw [hsame, List.mem_filter, decide_eq_true_eq] at hmem
    exact hmem.2 hscope
  · intro hplain
    refine List.filter_congr fun name hname => decide_eq_decide.mpr (not_congr ?_)
    exact ⟨PlainlyInScope.inScope, hplain name hname⟩

/-- The names of items are names as they are written. -/
lemma RuntimeItem.isPlainName_head (item : RuntimeItem) : IsPlainName item.head := by
  cases item <;> decide +kernel

/-- Of two items one is in scope. -/
theorem names_in_scope_group :
    missingNames [.use (.path "metabean" (.group [.name "BeanError", .name "registry"])) 1]
        [RuntimeItem.bean.head, RuntimeItem.beanError.head] = [RuntimeItem.bean.head] ∧
      ∀ name ∈ [RuntimeItem.bean.head, RuntimeItem.beanError.head], IsPlainName name := by
  have hneeded : ∀ name ∈ [RuntimeItem.bean.head, RuntimeItem.beanError.head], IsPlainName name := by
    simp [RuntimeItem.isPlainName_head]
  obtain ⟨-, -, -, hmissing, -⟩ := names_in_scope
    [.use (.path "metabean" (.group [.name "BeanError", .name "registry"])) 1] hneeded
  refine ⟨hmissing.trans ?_, hneeded⟩
  decide +kernel

/-- Names are read that are not in scope, and items are in scope but said to be missing: behind a
star in braces, before a `self`, and with a mark. -/
theorem exists_scope_not_exact :
    (InScope [.use (.path "metabean" (.group [.glob])) 1] "Bean" ∧
      (∃ i ∈ SourceFile.imports [.use (.path "metabean" (.group [.glob])) 1],
        i.TakesAllOf runtimeName) ∧
      importsRuntime [.use (.path "metabean" (.group [.glob])) 1] = false ∧
      missingNames [.use (.path "metabean" (.group [.glob])) 1] ["Bean"] = ["Bean"]) ∧
    (InScope [.use (.path "metabean" (.path "registry" (.group [.name "self"]))) 1] "registry" ∧
      SourceFile.boundNames
        [.use (.path "metabean" (.path "registry" (.group [.name "self"]))) 1] = ["self"] ∧
      missingNames [.use (.path "metabean" (.path "registry" (.group [.name "self"]))) 1]
        ["registry"] = ["registry"]) ∧
    (SourceFile.boundNames [.use (.path "other" (.rename "Bean" "_")) 1] = ["_"] ∧
      ∀ i ∈ SourceFile.imports [.use (.path "other" (.rename "Bean" "_")) 1], i.binds? = none) ∧
    InScope [.use (.path "metabean" (.name "r#types")) 1] "types" ∧
      missingNames [.use (.path "metabean" (.name "r#types")) 1] ["types"] = ["types"] := by
  decide +kernel

end Beans
