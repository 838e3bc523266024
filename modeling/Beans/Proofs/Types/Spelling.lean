import Mathlib
import Beans.Proofs.Text.Cut
import Beans.Proofs.Types.Name

/-!
# Texts of types

A type is written as the name under all arrays, the arguments, and the brackets of the arrays. The
reader puts the arguments and the brackets back in their places: what it makes of the text of a type
is that type, for all types that are assembled from the types of the catalog.

## Main definitions

* `Beans.Catalog.Names` — a type that the catalog has under a name that can be read.
* `Beans.ResolvedType.Assembled` — the types that are made of those of the catalog.
* `Beans.ResolvedType.Reads` — the reader makes the type of its text.

## Main results

* `Beans.ResolvedType.Assembled.reads` — every assembled type is made of its text.
* `Beans.ResolvedType.assembled_of_readType` — what is read is assembled.
* `Beans.ResolvedType.parse_display` — reading the text of a type gives that type.

## Implementation notes

A text goes on after a type, so what is read is stated for a text with any tail that cannot belong to
the type. Pairs of brackets can: they make an array of the type that comes before them. For this reason
`Reads` says that the reader goes on with the arrays of the type.
-/

set_option autoImplicit false

namespace Beans

open Text

/-! ## Types of a catalog -/

/-- A type that the catalog has under its name, which can be read. -/
structure Catalog.Names (c : Catalog) (raw : TypeInfo) : Prop where
  find?_eq : c.find? raw.name = some raw
  isName : IsName raw.name.toList

/-- A built-in type has the name under which it is built in. -/
lemma name_of_builtin? {name : String} {raw : TypeInfo} (h : builtin? name = some raw) :
    raw.name = name := by
  unfold builtin? at h
  split at h
  · cases h
    rfl
  · split at h
    · cases h
      rfl
    · obtain ⟨params, -, rfl⟩ := Option.map_eq_some_iff.mp h
      rfl

/-- A type is found under its name. -/
lemma Catalog.name_of_find? {c : Catalog} {name : String} {raw : TypeInfo}
    (h : c.find? name = some raw) : raw.name = name := by
  rw [find?] at h
  cases hbuiltin : builtin? name with
  | some known =>
    rw [hbuiltin] at h
    obtain rfl : known = raw := Option.some.inj h
    exact name_of_builtin? hbuiltin
  | none =>
    rw [hbuiltin] at h
    simpa using List.find?_some h

/-- A type whose name can be read is no array. -/
lemma Catalog.Names.declared {c : Catalog} {raw : TypeInfo} (h : c.Names raw) :
    raw.base = raw ∧ raw.dimensions = 0 := by
  cases raw with
  | declared name primitive params supertypes => exact ⟨rfl, rfl⟩
  | array component own supertypes =>
    have hmem : ']' ∈ (TypeInfo.array component own supertypes).name.toList := by
      rw [TypeInfo.name, String.toList_append]
      exact List.mem_append_right _ (by decide)
    rcases h.isName.continues ']' hmem with hcontinues | hcolon
    · rw [(delimiters ']' (by decide)).1] at hcontinues
      cases hcontinues
    · exact absurd hcolon (by decide)

namespace ResolvedType

/-- Types that are made of those of a catalog. -/
inductive Assembled (c : Catalog) : ResolvedType → Prop
  | of {raw : TypeInfo} {args : List ResolvedType} {t : ResolvedType} (hraw : c.Names raw)
      (hargs : ∀ a ∈ args, Assembled c a) (h : of? raw args = .ok t) : Assembled c t
  | ofFlat {raw : TypeInfo} {args : List TypeInfo} {t : ResolvedType} (hraw : c.Names raw)
      (hargs : ∀ a ∈ args, c.Names a) (h : ofFlat? raw args = .ok t) : Assembled c t
  | ofRaw {raw : TypeInfo} (hraw : c.Names raw) : Assembled c (ofRaw raw)
  | toArray {t : ResolvedType} (ht : Assembled c t) : Assembled c t.toArray

/-! ## Texts -/

lemma displayAll_eq_map (ts : List ResolvedType) : displayAll ts = ts.map display := by
  induction ts with
  | nil => rfl
  | cons t ts ih => rw [displayAll, ih, List.map_cons]

/-- The text of an array has a pair of brackets more. -/
lemma toList_display_toArray (t : ResolvedType) :
    t.toArray.display.toList = t.display.toList ++ ['[', ']'] := by
  obtain ⟨raw, args⟩ := t
  have hdimensions : raw.arrayOf.dimensions = raw.dimensions + 1 := rfl
  change (display (.mk raw.arrayOf args)).toList = _
  rw [display, display, hdimensions, timesText_succ]
  simp only [String.toList_append, List.append_assoc]
  rfl

/-- The text of a type that is no array: the name, and the arguments between angle brackets. -/
lemma toList_display_mk {raw : TypeInfo} (hbase : raw.base = raw) (hdimensions : raw.dimensions = 0)
    (args : List ResolvedType) :
    (mk raw args).display.toList = raw.name.toList ++
      if args.isEmpty then [] else '<' :: (joinWith ", " (args.map display)).toList ++ ['>'] := by
  rw [display, hbase, hdimensions, displayAll_eq_map]
  split <;> simp [timesText]

/-- What may follow the name and the arguments of a type. -/
def Follows (tail : List Char) : Prop := ∀ d ∈ tail.head?, d ∈ ['[', ',', '>']

/-- What may follow a type. -/
def Closes (tail : List Char) : Prop := ∀ d ∈ tail.head?, d ∈ [',', '>']

lemma Follows.endsName {tail : List Char} (h : Follows tail) : EndsName tail := by
  intro d hd
  have hdelimiter : d ∈ ['<', '>', '[', ']', ','] := by
    have := h d hd
    simp only [List.mem_cons] at this ⊢
    tauto
  exact ⟨(delimiters d hdelimiter).1, (delimiters d hdelimiter).2.1⟩

/-- No blank character comes first in what may follow. -/
lemma Follows.dropBlank {tail : List Char} (h : Follows tail) : dropBlank tail = tail := by
  cases tail with
  | nil => rfl
  | cons d tail =>
    have hd := h d rfl
    have hblank : isBlank d = false := by
      simp only [List.mem_cons, List.not_mem_nil, or_false] at hd
      rcases hd with rfl | rfl | rfl <;> decide
    rw [Text.dropBlank, List.dropWhile_cons, hblank]
    rfl

/-- No blank character comes first in a name. -/
lemma dropBlank_of_isName {name rest : List Char} (h : IsName name) :
    dropBlank (name ++ rest) = name ++ rest := by
  obtain ⟨c, cs, rfl, hc⟩ := h.exists_head
  rw [List.cons_append, dropBlank, List.dropWhile_cons, not_isBlank_of_startsName hc]
  rfl

/-! ## Reading the text of a type -/

/-- What closes a type belongs to no array. -/
lemma readArrays_of_closes (t : ResolvedType) {tail : List Char} (h : Closes tail) :
    readArrays t tail = .ok (t, tail) := by
  cases tail with
  | nil => rfl
  | cons d tail =>
    have hd := h d rfl
    have hother : d ≠ '[' ∧ isBlank d = false := by
      simp only [List.mem_cons, List.not_mem_nil, or_false] at hd
      rcases hd with rfl | rfl <;> decide
    unfold readArrays
    simp only [hother.1, hother.2, if_false, Bool.false_eq_true]
    rfl

/-- The reader makes the type of its text, and goes on with its arrays. -/
def Reads (c : Catalog) (t : ResolvedType) : Prop :=
  ∀ depth tail, 2 * t.display.toList.length ≤ depth → Follows tail →
    readType c depth (t.display.toList ++ tail) = readArrays t tail

variable {c : Catalog}

lemma readArraysOf_eq {raw : TypeInfo} {args : List ResolvedType} {t : ResolvedType}
    (ht : of? raw args = .ok t) (cs : List Char) : readArraysOf raw args cs = readArrays t cs := by
  rw [readArraysOf, ht]

lemma readArguments_blank (depth : Nat) (cs : List Char) :
    readArguments c depth (' ' :: cs) = readArguments c depth cs := by
  cases depth with
  | zero => rfl
  | succ depth =>
    have htype : readType c depth (' ' :: cs) = readType c depth cs := by
      cases depth <;> rfl
    rw [readArguments, readArguments, htype]

/-- Arguments are read that are made of their texts.

**Proof sketch.** Induction on the arguments. Behind each one stands a comma or the closing mark,
and both end the text of a type. -/
lemma readArguments_display {args : List ResolvedType} (hne : args ≠ [])
    (hargs : ∀ a ∈ args, Reads c a) (tail : List Char) {depth : Nat}
    (hdepth : 2 * (joinWith ", " (args.map display)).toList.length + 1 ≤ depth) :
    readArguments c depth ((joinWith ", " (args.map display)).toList ++ '>' :: tail) =
      .ok (args, tail) := by
  induction args generalizing depth with
  | nil => exact absurd rfl hne
  | cons a args ih =>
    obtain ⟨ha, hargs⟩ := List.forall_mem_cons.mp hargs
    obtain ⟨depth, rfl⟩ : ∃ d, depth = d + 1 := ⟨depth - 1, by omega⟩
    rw [readArguments]
    cases args with
    | nil =>
      have hread : readType c depth (a.display.toList ++ '>' :: tail) = .ok (a, '>' :: tail) := by
        rw [ha depth ('>' :: tail) (by simpa [joinWith] using hdepth) (by simp [Follows])]
        exact readArrays_of_closes a (by simp [Closes])
      simp only [List.map_cons, List.map_nil, joinWith, hread]
      rfl
    | cons b args =>
      have hjoin : (joinWith ", " ((a :: b :: args).map display)).toList =
          a.display.toList ++ ',' :: ' ' :: (joinWith ", " ((b :: args).map display)).toList := by
        simp [joinWith]
      rw [hjoin] at hdepth ⊢
      simp only [List.length_append, List.length_cons] at hdepth
      generalize htext : (joinWith ", " ((b :: args).map display)).toList = text at *
      have hread : readType c depth (a.display.toList ++ ',' :: ' ' :: (text ++ '>' :: tail)) =
          .ok (a, ',' :: ' ' :: (text ++ '>' :: tail)) := by
        rw [ha depth _ (by omega) (by simp [Follows])]
        exact readArrays_of_closes a (by simp [Closes])
      have hrest := ih (by simp) hargs (show 2 * text.length + 1 ≤ depth by omega)
      simp only [List.append_assoc, List.cons_append, hread]
      change (readArguments c depth (' ' :: (text ++ '>' :: tail)) >>= _) = _
      rw [readArguments_blank, hrest]
      rfl

/-- A type with arguments is made of its text if each argument is. -/
lemma reads_of {raw : TypeInfo} {args : List ResolvedType} (hraw : c.Names raw)
    (hargs : ∀ a ∈ args, Reads c a) {t : ResolvedType} (ht : of? raw args = .ok t) : Reads c t := by
  intro depth tail hdepth htail
  obtain rfl : mk raw args = t := by
    unfold of? at ht
    split at ht
    · exact Except.ok.inj ht
    · cases ht
  obtain ⟨hbase, hdimensions⟩ := hraw.declared
  have htext := toList_display_mk hbase hdimensions args
  obtain ⟨head, name, hname, -⟩ := hraw.isName.exists_head
  obtain ⟨depth, rfl⟩ : ∃ d, depth = d + 1 := by
    refine ⟨depth - 1, ?_⟩
    rw [htext, hname] at hdepth
    simp only [List.length_append, List.length_cons] at hdepth
    omega
  rw [readType, htext, List.append_assoc, dropBlank_of_isName hraw.isName]
  by_cases hempty : args = []
  · subst hempty
    have hread := readName_append hraw.isName htail.endsName
    rw [String.ofList_toList] at hread
    simp only [List.isEmpty_nil, if_true, List.nil_append, hread, ok_bind, hraw.find?_eq,
      htail.dropBlank]
    split
    -- the bracket of arguments does not follow
    · next rest => simpa using htail '<' rfl
    · exact readArraysOf_eq ht _
  · have hsome : args.isEmpty = false := by simpa using hempty
    have hends : EndsName ('<' :: (joinWith ", " (args.map display)).toList ++ ['>'] ++ tail) := by
      intro d hd
      obtain rfl : '<' = d := by simpa using hd
      exact ⟨(delimiters '<' (by decide)).1, by decide⟩
    have hread := readName_append hraw.isName hends
    rw [String.ofList_toList] at hread
    have henough : 2 * (joinWith ", " (args.map display)).toList.length + 1 ≤ depth := by
      rw [htext, hsome] at hdepth
      simp only [Bool.false_eq_true, if_false, List.length_append, List.length_cons] at hdepth
      omega
    have hargs := readArguments_display hempty hargs tail henough
    have hblank : dropBlank ('<' :: (joinWith ", " (args.map display)).toList ++ ['>'] ++ tail) =
        '<' :: ((joinWith ", " (args.map display)).toList ++ '>' :: tail) := by
      simp [dropBlank, (delimiters '<' (by decide)).2.2]
    simp only [hsome, Bool.false_eq_true, if_false, hread, ok_bind, hraw.find?_eq, hblank, hargs]
    exact readArraysOf_eq ht _

/-- An array is made of its text if its component is. -/
lemma reads_toArray {t : ResolvedType} (ht : Reads c t) : Reads c t.toArray := by
  intro depth tail hdepth htail
  rw [toList_display_toArray] at hdepth ⊢
  rw [List.length_append] at hdepth
  have hread := ht depth ('[' :: ']' :: tail) (by omega) (by simp [Follows])
  rw [List.append_assoc]
  refine hread.trans ?_
  rw [readArrays, if_pos rfl]

/-- **Every assembled type is made of its text.** -/
theorem Assembled.reads {t : ResolvedType} (h : t.Assembled c) : Reads c t := by
  have hraw {raw : TypeInfo} (h : c.Names raw) : Reads c (.ofRaw raw) :=
    reads_of h (List.forall_mem_nil _) rfl
  induction h with
  | of hraw _ h ih => exact reads_of hraw ih h
  | ofFlat hname hargs h =>
    refine reads_of hname (fun a ha => ?_) h
    obtain ⟨arg, harg, rfl⟩ := List.mem_map.mp ha
    exact hraw (hargs arg harg)
  | ofRaw hname => exact hraw hname
  | toArray _ ih => exact reads_toArray ih

/-! ## What is read -/

lemma assembled_of_readArrays {t u : ResolvedType} {cs rest : List Char} (ht : t.Assembled c)
    (h : readArrays t cs = .ok (u, rest)) : u.Assembled c := by
  fun_induction readArrays t cs with
  | case1 t =>
    obtain ⟨rfl, -⟩ := Prod.mk.inj (Except.ok.inj h)
    exact ht
  | case2 t cs ih => exact ih ht.toArray h
  | case3 => cases h
  | case4 t d cs _ hblank ih => exact ih ht h
  | case5 t d cs =>
    obtain ⟨rfl, -⟩ := Prod.mk.inj (Except.ok.inj h)
    exact ht

lemma assembled_of_readArraysOf {raw : TypeInfo} {args : List ResolvedType} {t : ResolvedType}
    {cs rest : List Char} (hraw : c.Names raw) (hargs : ∀ a ∈ args, a.Assembled c)
    (h : readArraysOf raw args cs = .ok (t, rest)) : t.Assembled c := by
  unfold readArraysOf at h
  split at h
  · cases h
  · next u hu => exact assembled_of_readArrays (.of hraw hargs hu) h

/-- **What is read is assembled**, by induction on the depth, for types and for arguments. -/
theorem assembled_of_readType (depth : Nat) :
    (∀ cs t rest, readType c depth cs = .ok (t, rest) → t.Assembled c) ∧
      ∀ cs args rest, readArguments c depth cs = .ok (args, rest) → ∀ a ∈ args, a.Assembled c := by
  induction depth with
  | zero =>
    constructor
    · intro cs t rest h
      cases h
    · intro cs args rest h
      cases h
  | succ depth ih =>
    obtain ⟨iht, iha⟩ := ih
    constructor
    · intro cs t rest h
      rw [readType] at h
      obtain ⟨⟨name, rest'⟩, hname, h⟩ := bind_eq_ok_iff.mp h
      dsimp only at h
      split at h
      · cases h
      · next raw hfind =>
        have hraw : c.Names raw := by
          obtain rfl := Catalog.name_of_find? hfind
          exact ⟨hfind, isName_of_readName hname⟩
        split at h
        · obtain ⟨⟨args, rest''⟩, hargs, h⟩ := bind_eq_ok_iff.mp h
          exact assembled_of_readArraysOf hraw (iha _ _ _ hargs) h
        · exact assembled_of_readArraysOf hraw (List.forall_mem_nil _) h
    · intro cs args rest h
      rw [readArguments] at h
      obtain ⟨⟨a, rest'⟩, ha, h⟩ := bind_eq_ok_iff.mp h
      dsimp only at h
      split at h
      · obtain ⟨⟨as, rest''⟩, has, h⟩ := bind_eq_ok_iff.mp h
        obtain ⟨rfl, -⟩ := Prod.mk.inj (Except.ok.inj h)
        exact List.forall_mem_cons.mpr ⟨iht _ _ _ ha, iha _ _ _ has⟩
      · obtain ⟨rfl, -⟩ := Prod.mk.inj (Except.ok.inj h)
        simpa using iht _ _ _ ha
      · cases h

/-! ## Whole texts -/

/-- A text names a type if the type is read and nothing but blanks is left. -/
lemma parse_eq_ok_iff {text : String} {t : ResolvedType} : parse c text = .ok t ↔
    ∃ rest, readType c (2 * text.toList.length + 2) text.toList = .ok (t, rest) ∧
      dropBlank rest = [] := by
  rw [parse, mapError_eq_ok_iff, parseType]
  constructor
  · intro h
    obtain ⟨⟨u, rest⟩, hread, h⟩ := bind_eq_ok_iff.mp h
    dsimp only at h
    split at h
    case h_1 hnil =>
      obtain rfl := Except.ok.inj h
      exact ⟨rest, hread, hnil⟩
    case h_2 => cases h
  · rintro ⟨rest, hread, hnil⟩
    rw [hread, ok_bind]
    dsimp only
    rw [hnil]
    rfl

/-- What a text names is assembled. -/
lemma assembled_of_parse {text : String} {t : ResolvedType} (h : parse c text = .ok t) :
    t.Assembled c := by
  obtain ⟨rest, hread, -⟩ := parse_eq_ok_iff.mp h
  exact (assembled_of_readType _).1 _ _ _ hread

/-- The text of an assembled type names it. -/
lemma Assembled.parse_eq {t : ResolvedType} (h : t.Assembled c) :
    parse c t.display = .ok t := by
  have hread := h.reads (2 * t.display.toList.length + 2) [] (by omega) (by simp [Follows])
  rw [List.append_nil] at hread
  exact parse_eq_ok_iff.mpr ⟨[], hread, rfl⟩

/-- **Reading the text of a type gives that type.** If some text names a type, the type's own text does,
and the text of what that names is the same again. The text of every type that is assembled from those
of the catalog names it. -/
theorem parse_display (c : Catalog) :
    (∀ text t, parse c text = .ok t →
      parse c t.display = .ok t ∧ (parse c t.display).map display = .ok t.display) ∧
    ∀ t, Assembled c t → parse c t.display = .ok t := by
  constructor
  · intro text t h
    have hparse := (assembled_of_parse h).parse_eq
    refine ⟨hparse, ?_⟩
    rw [hparse]
    rfl
  · intro t ht
    exact ht.parse_eq

/-- A type that was added, with arrays as arguments, from a text with blanks; and the array of a generic
type without its arguments. -/
theorem parse_display_pair :
    let pair := TypeInfo.generic "app::Pair" ["A", "B"]
    let c := (Catalog.empty.intern pair).2
    let text := " app::Pair < Vec<String>[],i32 [] > [] [] "
    let strings := mk (builtin "Vec").arrayOf [ofRaw (builtin "String")]
    let t := mk pair.arrayOf.arrayOf [strings, mk (builtin "i32").arrayOf []]
    let u := (ofRaw pair).toArray
    (parse c text = .ok t ∧ parse c t.display = .ok t ∧
      (parse c t.display).map display = .ok t.display) ∧
    Assembled c u ∧ parse c u.display = .ok u := by
  intro pair c text strings t u
  have hparse : parse c text = .ok t := by cbv
  have hspelled : pair.name.toList = ['a', 'p', 'p'] ++ ':' :: ':' :: ['P', 'a', 'i', 'r'] := by cbv
  have hname : IsName pair.name.toList := by
    rw [hspelled]
    refine .qualified ⟨'a', ['p', 'p'], rfl, ?_⟩ (.ident ⟨'P', ['a', 'i', 'r'], rfl, ?_⟩) <;>
      simp only [List.forall_mem_cons, List.not_mem_nil, false_imp_iff, implies_true, and_true] <;>
      decide
  have hu : Assembled c u := .toArray (.ofRaw ⟨rfl, hname⟩)
  exact ⟨⟨hparse, (parse_display c).1 text t hparse⟩, hu, (parse_display c).2 u hu⟩

end ResolvedType

end Beans
