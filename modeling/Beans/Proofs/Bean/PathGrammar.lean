import Mathlib.Tactic.Common
import Beans.Bean.Path
import Beans.Proofs.Order.Pointwise
import Beans.Proofs.Result
import Beans.Proofs.Text.Cut

/-!
# The grammar of paths

A path is written as steps with dots between them, and a step as a name, after which a key may stand
in brackets. The reader cuts the text at all dots before it looks at brackets. As no dot can stand
in a name or in a key, the pieces are the steps, and each piece can be read in one way only.

## Main definitions

* `Beans.IsPathText` — the texts of paths, by their grammar.
* `Beans.PathSegment.WellFormed` — the name and the key of a step are such as the grammar has them.
* `Beans.PropertyPath.segments` — all steps of a path.

## Main results

* `Beans.PathSegment.parse_eq_ok_iff` — when a step is read, and which one it is.
* `Beans.PropertyPath.parse_eq_ok_iff` — the same for a path.
* `Beans.PropertyPath.parse_grammar` — the texts that are read are those of the grammar.
-/

set_option autoImplicit false

open List

namespace Beans

open Text

/-! ## The grammar -/

/-- The name of a property in a path: letters, digits and underscores. -/
def IsPathName (cs : List Char) : Prop := cs ≠ [] ∧ ∀ c ∈ cs, isAlphanumeric c = true ∨ c = '_'

/-- The key of an item in a path: any characters but those that delimit names and keys. -/
def IsPathKey (cs : List Char) : Prop := cs ≠ [] ∧ ∀ c ∈ cs, c ≠ '.' ∧ c ≠ '[' ∧ c ≠ ']'

/-- The text of a step: a name, and perhaps a key in brackets. -/
inductive IsStepText : List Char → Prop
  | whole {name : List Char} (hname : IsPathName name) : IsStepText name
  | keyed {name key : List Char} (hname : IsPathName name) (hkey : IsPathKey key) :
      IsStepText (name ++ '[' :: (key ++ [']']))

/-- The text of a path: one step or more, with a dot between neighbours. -/
inductive IsPathText : List Char → Prop
  | last {cs : List Char} (hstep : IsStepText cs) : IsPathText cs
  | more {cs rest : List Char} (hstep : IsStepText cs) (hrest : IsPathText rest) :
      IsPathText (cs ++ '.' :: rest)

/-- No character that delimits names and keys is in a name. -/
lemma IsPathName.not_mem {cs : List Char} (h : IsPathName cs) {d : Char}
    (hd : d ∈ ['.', '[', ']']) : d ∉ cs := by
  have hdelimiters : ∀ d ∈ ['.', '[', ']'], isAlphanumeric d = false ∧ d ≠ '_' := by
    -- one character after the other, not by way of all characters there are
    simp only [forall_mem_cons, not_mem_nil, false_imp_iff, implies_true, and_true]
    decide +kernel
  intro hmem
  obtain ⟨hletter, hscore⟩ := hdelimiters d hd
  rcases h.2 d hmem with h | h
  · rw [hletter] at h
    cases h
  · exact hscore h

lemma IsPathKey.dot_not_mem {cs : List Char} (h : IsPathKey cs) : '.' ∉ cs :=
  fun hmem => (h.2 _ hmem).1 rfl

/-- No dot is in a step. -/
lemma IsStepText.not_mem {cs : List Char} (h : IsStepText cs) : '.' ∉ cs := by
  cases h with
  | whole hname => exact hname.not_mem (by decide)
  | keyed hname hkey =>
    simp only [mem_append, mem_cons, not_or]
    exact ⟨hname.not_mem (by decide), by decide, hkey.dot_not_mem, by decide, by simp⟩

/-- The text of a path is that of a step if it has no dot, and the dots are between steps.

**Proof sketch.** A derivation takes off one piece after the other. Conversely the pieces make a
path when they are joined, and joining is inverse to cutting. -/
lemma isPathText_iff {cs : List Char} :
    IsPathText cs ↔ ∀ piece ∈ cs.splitOn '.', IsStepText piece := by
  constructor
  · intro h
    induction h with
    | last hstep =>
      rw [splitOn_eq_singleton hstep.not_mem]
      exact forall_mem_singleton.mpr hstep
    | more hstep _ ih =>
      rw [splitOn_append_cons_self_of_not_mem hstep.not_mem]
      exact forall_mem_cons.mpr ⟨hstep, ih⟩
  · have hjoin (pieces : List (List Char)) (hne : pieces ≠ [])
        (h : ∀ piece ∈ pieces, IsStepText piece) : IsPathText (['.'].intercalate pieces) := by
      induction pieces with
      | nil => exact absurd rfl hne
      | cons piece pieces ih =>
        obtain ⟨hpiece, hpieces⟩ := forall_mem_cons.mp h
        cases pieces with
        | nil =>
          rw [intercalate_singleton]
          exact .last hpiece
        | cons next pieces =>
          rw [intercalate_cons_cons, append_assoc]
          exact .more hpiece (ih (cons_ne_nil next pieces) hpieces)
    intro h
    have hpath := hjoin (cs.splitOn '.') (splitOn_ne_nil _ _) h
    rwa [intercalate_splitOn] at hpath

/-! ## Steps -/

namespace PathSegment

variable {cs : List Char} {s : PathSegment}

/-- The name and the key of a step are such as the grammar has them. -/
structure WellFormed (s : PathSegment) : Prop where
  name : IsPathName s.name.toList
  key : ∀ key ∈ s.key, IsPathKey key.toList

lemma nameOf?_eq_ok_iff {name : String} :
    nameOf? cs = .ok name ↔ name.toList = cs ∧ IsPathName cs := by
  have hchars : (cs.isEmpty || !cs.all isNameChar) = false ↔ IsPathName cs := by
    simp [IsPathName, isNameChar]
  rw [nameOf?, ← hchars]
  cases cs.isEmpty || !cs.all isNameChar
  · simp [← String.toList_inj, eq_comm]
  · simp

/-- A key is read if it has no bracket; in a piece between dots it has no dot either. -/
lemma keyOf?_eq_ok_iff (hcs : '.' ∉ cs) {key : String} :
    keyOf? cs = .ok key ↔ key.toList = cs ∧ IsPathKey cs := by
  have hchars : (cs.isEmpty || cs.contains '[' || cs.contains ']') = false ↔ IsPathKey cs := by
    simp only [Bool.or_eq_false_iff, isEmpty_eq_false_iff, IsPathKey, and_assoc]
    refine and_congr_right fun _ => ?_
    rw [contains_eq_mem, contains_eq_mem, decide_eq_false_iff_not, decide_eq_false_iff_not]
    constructor
    · rintro ⟨hopen, hclose⟩ c hc
      exact ⟨ne_of_mem_of_not_mem hc hcs, ne_of_mem_of_not_mem hc hopen,
        ne_of_mem_of_not_mem hc hclose⟩
    · intro h
      exact ⟨fun hmem => (h _ hmem).2.1 rfl, fun hmem => (h _ hmem).2.2 rfl⟩
  rw [keyOf?, ← hchars]
  cases cs.isEmpty || cs.contains '[' || cs.contains ']'
  · simp [← String.toList_inj, eq_comm]
  · simp

/-- The text of a step with a key. -/
lemma toList_display_keyed (name key : String) :
    (display ⟨name, some key⟩).toList = name.toList ++ '[' :: (key.toList ++ [']']) := by
  simp [display]

/-- **When a step is read, and which one it is**: the one that is written like this, if its name and
its key are such as the grammar has them.

**Proof sketch.** The reader cuts the text at the first opening bracket and takes the closing one
off its end. Both are inverse to writing the step, as a name has no brackets. -/
theorem parse_eq_ok_iff (hcs : '.' ∉ cs) :
    parse cs = .ok s ↔ s.display.toList = cs ∧ s.WellFormed := by
  constructor
  · intro h
    rw [parse] at h
    split at h
    case h_1 name rest hcut =>
      obtain ⟨rfl, -⟩ := splitOnce_eq_some_iff.mp hcut
      split at h
      case h_1 => cases h
      case h_2 inner hinner =>
        obtain rfl := stripEnd?_eq_some_iff.mp hinner
        have hdot : '.' ∉ inner := fun hmem => hcs (by simp [hmem])
        obtain ⟨key, hkey, h⟩ := bind_eq_ok_iff.mp h
        obtain ⟨name', hname, h⟩ := bind_eq_ok_iff.mp h
        cases h
        obtain ⟨rfl, hkey⟩ := (keyOf?_eq_ok_iff hdot).mp hkey
        obtain ⟨rfl, hname⟩ := nameOf?_eq_ok_iff.mp hname
        exact ⟨toList_display_keyed name' key, hname, by simpa using hkey⟩
    case h_2 =>
      split at h
      case isTrue => cases h
      case isFalse =>
        obtain ⟨name, hname, rfl⟩ := map_eq_ok_iff.mp h
        obtain ⟨rfl, hname⟩ := nameOf?_eq_ok_iff.mp hname
        exact ⟨rfl, hname, by simp⟩
  · rintro ⟨rfl, hs⟩
    obtain ⟨name, key⟩ := s
    have hname := hs.name
    have hopen : '[' ∉ name.toList := hname.not_mem (by decide)
    rw [parse]
    cases key with
    | none =>
      have hclose : ']' ∉ name.toList := hname.not_mem (by decide)
      have hdisplay : display ⟨name, none⟩ = name := rfl
      rw [hdisplay, splitOnce_eq_none_iff.mpr hopen]
      dsimp only
      rw [if_neg (by simpa using hclose), nameOf?_eq_ok_iff.mpr ⟨rfl, hname⟩]
      rfl
    | some key =>
      have hkey : IsPathKey key.toList := hs.key key rfl
      rw [toList_display_keyed, splitOnce_eq_some_iff.mpr ⟨rfl, hopen⟩]
      dsimp only
      rw [stripEnd?_eq_some_iff.mpr rfl]
      dsimp only
      rw [(keyOf?_eq_ok_iff hkey.dot_not_mem).mpr ⟨rfl, hkey⟩, ok_bind,
        nameOf?_eq_ok_iff.mpr ⟨rfl, hname⟩]
      rfl

/-- The texts of steps are those of the grammar. -/
lemma isStepText_iff : IsStepText cs ↔ ∃ s : PathSegment, s.display.toList = cs ∧ s.WellFormed := by
  constructor
  · intro h
    cases h with
    | whole hname =>
      refine ⟨⟨String.ofList cs, none⟩, String.toList_ofList, ?_, by simp⟩
      rwa [String.toList_ofList]
    | @keyed name key hname hkey =>
      refine ⟨⟨String.ofList name, some (String.ofList key)⟩, ?_, ?_, ?_⟩
      · rw [toList_display_keyed, String.toList_ofList, String.toList_ofList]
      · rwa [String.toList_ofList]
      · simpa using hkey
  · rintro ⟨⟨name, key⟩, rfl, hs⟩
    cases key with
    | none => exact .whole hs.name
    | some key =>
      rw [toList_display_keyed]
      exact .keyed hs.name (hs.key key rfl)

end PathSegment

/-! ## Paths -/

namespace PropertyPath

variable {text : String} {path : PropertyPath}

/-- All steps. -/
def segments (p : PropertyPath) : List PathSegment := p.before ++ [p.last]

lemma segments_ne_nil (p : PropertyPath) : p.segments ≠ [] := by simp [segments]

lemma parseSegments_eq_mapM (pieces : List (List Char)) :
    parseSegments pieces = pieces.mapM PathSegment.parse := by
  induction pieces with
  | nil => rfl
  | cons cs pieces ih =>
    rw [parseSegments, mapM_cons, ih]

/-- A path is read if all pieces of its text between dots are read as its steps. -/
lemma parse_eq_ok_iff_pieces :
    parse text = .ok path ↔ path.text = text ∧
      Forall₂ (fun cs s => PathSegment.parse cs = .ok s) (text.toList.splitOn '.')
        path.segments := by
  have hsegments : parseSegments (cutWhere (· == '.') text.toList) =
      (text.toList.splitOn '.').mapM PathSegment.parse := by
    rw [parseSegments_eq_mapM, cutWhere_eq_splitOnP]
    rfl
  rw [parse, mapError_eq_ok_iff, parseText, hsegments]
  constructor
  · intro h
    split at h
    · cases h
    · obtain ⟨segments, hread, h⟩ := bind_eq_ok_iff.mp h
      split at h
      case h_1 last hlast =>
        cases h
        refine ⟨rfl, ?_⟩
        rw [PropertyPath.segments, dropLast_append_getLast? last hlast]
        exact mapM_eq_ok_iff.mp hread
      case h_2 => cases h
  · rintro ⟨rfl, hread⟩
    split
    case isTrue hempty =>
      -- an empty text has one piece, which is no step
      rw [String.isEmpty_iff.mp hempty] at hread
      obtain ⟨s, _, hs, -, -⟩ := forall₂_cons_left_iff.mp hread
      cases hs
    case isFalse =>
      rw [mapM_eq_ok_iff.mpr hread, ok_bind, segments, getLast?_concat, dropLast_concat]
      rfl

/-- No dot is in a piece between dots. -/
lemma not_mem_of_mem_splitOn {cs piece : List Char} (h : piece ∈ cs.splitOn '.') : '.' ∉ piece := by
  intro hdot
  have hpiece : piece ∈ cutWhere (· == '.') cs := by
    rw [cutWhere_eq_splitOnP]
    exact h
  exact absurd (not_of_mem_cutWhere hpiece hdot) (by decide)

/-- Pieces without dots are read as the steps of which they are the texts. -/
lemma forall₂_parse_iff {pieces : List (List Char)} {segments : List PathSegment}
    (hpieces : ∀ piece ∈ pieces, '.' ∉ piece) :
    Forall₂ (fun cs s => PathSegment.parse cs = .ok s) pieces segments ↔
      segments.map (fun s => s.display.toList) = pieces ∧ ∀ s ∈ segments, s.WellFormed := by
  have hread : Forall₂ (fun cs s => PathSegment.parse cs = .ok s) pieces segments ↔
      Forall₂ (fun cs s => s.display.toList = cs ∧ s.WellFormed) pieces segments :=
    Order.forall₂_congr_of_mem fun cs hcs s _ => PathSegment.parse_eq_ok_iff (hpieces cs hcs)
  rw [hread]
  clear hread hpieces
  induction segments generalizing pieces with
  | nil => simp [eq_comm]
  | cons s segments ih =>
    rw [forall₂_cons_right_iff]
    simp only [ih]
    constructor
    · rintro ⟨cs, rest, ⟨rfl, hs⟩, ⟨rfl, hsegments⟩, rfl⟩
      exact ⟨rfl, forall_mem_cons.mpr ⟨hs, hsegments⟩⟩
    · rintro ⟨rfl, h⟩
      obtain ⟨hs, hsegments⟩ := forall_mem_cons.mp h
      exact ⟨_, _, ⟨rfl, hs⟩, ⟨rfl, hsegments⟩, rfl⟩

/-- **When a path is read, and which one it is**: the one whose steps, with dots between them, are
the text, if their names and keys are such as the grammar has them. -/
theorem parse_eq_ok_iff :
    parse text = .ok path ↔ path.text = text ∧
      joinWith "." (path.segments.map PathSegment.display) = text ∧
      ∀ s ∈ path.segments, s.WellFormed := by
  have hjoin : (joinWith "." (path.segments.map PathSegment.display)).toList =
      ['.'].intercalate (path.segments.map fun s => s.display.toList) := by
    rw [toList_joinWith, map_map]
    rfl
  rw [parse_eq_ok_iff_pieces, forall₂_parse_iff fun _ => not_mem_of_mem_splitOn]
  refine and_congr_right fun _ => and_congr_left fun hs => ?_
  rw [← String.toList_inj, hjoin]
  refine ⟨fun h => ?_, fun h => ?_⟩
  · rw [h, intercalate_splitOn]
  · rw [← h, splitOn_intercalate]
    · refine forall_mem_map.mpr fun s hmem => ?_
      exact (PathSegment.isStepText_iff.mpr ⟨s, rfl, hs s hmem⟩).not_mem
    · exact mt map_eq_nil_iff.mp path.segments_ne_nil

/-- The texts of paths are those of the grammar. -/
theorem exists_parse_iff : (∃ path, parse text = .ok path) ↔ IsPathText text.toList := by
  have hstep {piece : List Char} (h : piece ∈ text.toList.splitOn '.') :
      (∃ s, PathSegment.parse piece = .ok s) ↔ IsStepText piece := by
    simp only [PathSegment.parse_eq_ok_iff (not_mem_of_mem_splitOn h), PathSegment.isStepText_iff]
  rw [isPathText_iff]
  constructor
  · rintro ⟨path, h⟩ piece hpiece
    obtain ⟨s, -, hs⟩ := Order.exists_of_forall₂ (parse_eq_ok_iff_pieces.mp h).2 hpiece
    exact (hstep hpiece).mp ⟨s, hs⟩
  · intro h
    obtain ⟨segments, hread⟩ :=
      Order.exists_forall₂ fun piece hpiece => (hstep hpiece).mpr (h piece hpiece)
    have hne : segments ≠ [] := by
      rintro rfl
      exact splitOn_ne_nil _ _ (forall₂_nil_right_iff.mp hread)
    refine ⟨⟨text, segments.dropLast, segments.getLast hne⟩, parse_eq_ok_iff_pieces.mpr ⟨rfl, ?_⟩⟩
    rwa [PropertyPath.segments, dropLast_append_getLast hne]

/-- **The texts that are read are those of the grammar**, and only the steps that a text is made of
are read from it: written with dots between them they are the text again. Two texts with a dot
between them can be read exactly if each of them can. -/
theorem parse_grammar :
    (∀ text, (∃ path, parse text = .ok path) ↔ IsPathText text.toList) ∧
    (∀ text path, parse text = .ok path ↔ path.text = text ∧
      joinWith "." (path.segments.map PathSegment.display) = text ∧
      ∀ s ∈ path.segments, s.WellFormed) ∧
    ∀ p q, (∃ path, parse (p ++ "." ++ q) = .ok path) ↔
      (∃ path, parse p = .ok path) ∧ ∃ path, parse q = .ok path := by
  refine ⟨fun text => exists_parse_iff, fun text path => parse_eq_ok_iff, fun p q => ?_⟩
  have hpieces : (p ++ "." ++ q).toList.splitOn '.' =
      p.toList.splitOn '.' ++ q.toList.splitOn '.' := by
    rw [String.toList_append, String.toList_append, append_assoc]
    exact splitOn_append_cons_self ..
  simp only [exists_parse_iff, isPathText_iff, hpieces, forall_mem_append]

/-- A dot ends a step even between brackets. -/
example : (parse "lines[a.b]", (parse "lines[a].b").map segments) =
    (.error (.invalidPath "lines[a.b]" "expected ']' at end of segment"),
      .ok [⟨"lines", some "a"⟩, ⟨"b", none⟩]) := by cbv

end PropertyPath

end Beans
