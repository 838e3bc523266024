import Mathlib.Data.List.Chain
import Mathlib.Tactic.Common
import Beans.Proofs.Text.Settled

/-!
# Lines in the bytes of a text

A text is stored as bytes, in which a character takes one to four. The bytes of a line feed and a
carriage return are in no other character, so a scan of the bytes that cuts at these two finds the
lines of the text, and cuts no character. It keeps the place where the current line starts and the one
it is at, and looks one byte ahead.

Which lines a text has is also said without any scan: there is one list of lines only that gives the
text back and has no two lines that a reader could take for one.

## Main definitions

* `Beans.Text.utf8` — the bytes of a text.
* `Beans.Text.scanLines` — the lines that a scan of bytes finds.
* `Beans.Text.LinesOf` — the lines of a text.

## Main results

* `Beans.Text.scanLines_utf8` — a scan of the bytes of a text finds the bytes of its lines.
* `Beans.Text.splitLines_exact` — the lines of a text are the only ones of that kind, and those of its
  bytes.
-/

set_option autoImplicit false

namespace Beans.Text

/-! ## Bytes -/

/-- The bytes of some characters. -/
def utf8 (cs : List Char) : List UInt8 := cs.flatMap String.utf8EncodeChar

/-- The byte of a line feed. -/
def feedByte : UInt8 := 10

/-- The byte of a carriage return. -/
def returnByte : UInt8 := 13

/-- Whether a byte ends a line. -/
def isBreakByte (b : UInt8) : Bool := b == feedByte || b == returnByte

lemma utf8_append (cs ds : List Char) : utf8 (cs ++ ds) = utf8 cs ++ utf8 ds := List.flatMap_append

/-- The bytes in which a text is stored are those of its characters. -/
lemma toList_toUTF8 (s : String) : s.toUTF8.data.toList = utf8 s.toList := by
  have hbytes : s.toUTF8 = s.toList.utf8Encode := by
    rw [String.toUTF8_eq_toByteArray, ← String.toByteArray_ofList, String.ofList_toList]
  rw [hbytes, List.utf8Encode, List.data_toByteArray, utf8]

lemma isBreakByte_ofNat_of_le {n : Nat} (hlow : 128 ≤ n) (hhigh : n < 256) :
    isBreakByte (UInt8.ofNat n) = false := by
  have hne {b : UInt8} (hb : b.toNat < 128) : UInt8.ofNat n ≠ b := by
    rintro rfl
    rw [UInt8.toNat_ofNat'] at hb
    omega
  rw [isBreakByte, Bool.or_eq_false_iff, beq_eq_false_iff_ne, beq_eq_false_iff_ne]
  exact ⟨hne (by decide), hne (by decide)⟩

/-- The bytes of a character that ends no line end no line. -/
lemma isBreakByte_of_mem {c : Char} (hc : isBreak c = false) {b : UInt8}
    (hb : b ∈ String.utf8EncodeChar c) : isBreakByte b = false := by
  unfold String.utf8EncodeChar at hb
  dsimp only at hb
  split_ifs at hb with hascii htwo hthree
  · -- one byte, the number of the character
    obtain rfl := List.mem_singleton.mp hb
    obtain ⟨hfeed, hreturn⟩ : c ≠ '\n' ∧ c ≠ '\r' := by simpa [isBreak] using hc
    have hnumber {d : Char} (heq : UInt8.ofNat c.val.toNat = UInt8.ofNat d.val.toNat)
        (hd : d.val.toNat ≤ 127) : c = d := by
      have heq := congrArg UInt8.toNat heq
      rw [UInt8.toNat_ofNat', UInt8.toNat_ofNat'] at heq
      exact Char.ext (UInt32.toNat_inj.mp (by omega))
    rw [isBreakByte, Bool.or_eq_false_iff]
    constructor
    · exact beq_eq_false_iff_ne.mpr fun heq => hfeed (hnumber heq (by decide))
    · exact beq_eq_false_iff_ne.mpr fun heq => hreturn (hnumber heq (by decide))
  all_goals
    -- every byte has its highest bit set
    simp only [List.mem_cons, List.not_mem_nil, or_false] at hb
    rcases hb with rfl | rfl | rfl | rfl <;> exact isBreakByte_ofNat_of_le (by omega) (by omega)

/-! ## Scans -/

/-- The bytes from one place up to another one. -/
def slice (bytes : List UInt8) (start stop : Nat) : List UInt8 := (bytes.take stop).drop start

/-- Where the terminator ends that stands at a place; the pair of a carriage return and a line feed is
one. -/
def terminatorEnd? (bytes : List UInt8) (index : Nat) : Option Nat :=
  if bytes[index]? = some feedByte then some (index + 1)
  else if bytes[index]? = some returnByte then
    if bytes[index + 1]? = some feedByte then some (index + 2) else some (index + 1)
  else none

lemma lt_of_terminatorEnd? {bytes : List UInt8} {index stop : Nat}
    (h : terminatorEnd? bytes index = some stop) : index < stop := by
  unfold terminatorEnd? at h
  split_ifs at h <;> simp at h <;> omega

/-- The lines that a scan finds, each with its terminator, in bytes: the current line starts at
`start`, and the scan is at `index`. -/
def scanLines (bytes : List UInt8) (start index : Nat) : List (List UInt8 × List UInt8) :=
  if index < bytes.length then
    match h : terminatorEnd? bytes index with
    | some stop => (slice bytes start index, slice bytes index stop) :: scanLines bytes stop stop
    | none => scanLines bytes start (index + 1)
  else if start < bytes.length then [(slice bytes start bytes.length, [])] else []
termination_by bytes.length - index
decreasing_by
  · have := lt_of_terminatorEnd? h
    omega
  · omega

section

variable {bytes front text terminator back : List UInt8} {start index stop : Nat}

lemma scanLines_of_none (hlt : index < bytes.length) (h : terminatorEnd? bytes index = none) :
    scanLines bytes start index = scanLines bytes start (index + 1) := by
  rw [scanLines, if_pos hlt]
  split
  · next hsome => simp [h] at hsome
  · rfl

lemma scanLines_of_some (hlt : index < bytes.length)
    (h : terminatorEnd? bytes index = some stop) :
    scanLines bytes start index =
      (slice bytes start index, slice bytes index stop) :: scanLines bytes stop stop := by
  rw [scanLines, if_pos hlt]
  split
  · next hsome =>
    obtain rfl := Option.some.inj (h.symm.trans hsome)
    rfl
  · next hnone => simp [h] at hnone

/-- A slice of bytes in the middle of others. -/
lemma slice_middle (front text back : List UInt8) :
    slice (front ++ text ++ back) front.length (front ++ text).length = text := by
  rw [slice, List.take_left, List.drop_left]

/-- The scan goes over bytes that end no line. -/
lemma scanLines_skip (front back : List UInt8) (start : Nat)
    (h : ∀ b ∈ text, isBreakByte b = false) :
    scanLines (front ++ text ++ back) start front.length =
      scanLines (front ++ text ++ back) start (front ++ text).length := by
  induction text generalizing front with
  | nil => simp
  | cons b text ih =>
    obtain ⟨hb, htext⟩ := List.forall_mem_cons.mp h
    have hnone : terminatorEnd? (front ++ b :: text ++ back) front.length = none := by
      simp only [isBreakByte, Bool.or_eq_false_iff, beq_eq_false_iff_ne] at hb
      simp [terminatorEnd?, hb]
    have hrest := ih (front ++ [b]) htext
    rw [scanLines_of_none (by simp) hnone]
    simpa using hrest

/-- The scan cuts at a terminator. -/
lemma scanLines_cut
    (h : terminatorEnd? (front ++ text ++ (terminator ++ back)) (front ++ text).length =
      some (front ++ text ++ terminator).length) :
    scanLines (front ++ text ++ (terminator ++ back)) front.length (front ++ text).length =
      (text, terminator) :: scanLines (front ++ text ++ terminator ++ back)
        (front ++ text ++ terminator).length (front ++ text ++ terminator).length := by
  have hlt := lt_of_terminatorEnd? h
  rw [scanLines_of_some (by simp only [List.length_append] at hlt ⊢; omega) h, slice_middle,
    ← List.append_assoc, slice_middle]

end

/-- The text of a line and its terminator, in bytes. -/
def Line.bytes (l : Line) : List UInt8 × List UInt8 := (utf8 l.text.toList, utf8 l.ending.chars)

/-- The first byte of a text is a line feed only if its first character is one. -/
lemma head?_utf8_ne {cs : List Char} (h : cs.head? ≠ some '\n') :
    (utf8 cs).head? ≠ some feedByte := by
  cases cs with
  | nil => simp [utf8]
  | cons c cs =>
    rw [utf8, List.flatMap_cons, List.head?_append_of_ne_nil _ String.utf8EncodeChar_ne_nil]
    intro hhead
    have hfeed : c ≠ '\n' := by simpa using h
    by_cases hreturn : c = '\r'
    · rw [hreturn] at hhead
      exact absurd hhead (by decide)
    · have hc : isBreak c = false := by simpa [isBreak] using ⟨hfeed, hreturn⟩
      have hbreak := isBreakByte_of_mem hc (List.mem_of_mem_head? hhead)
      exact absurd hbreak (by decide)

/-- The scan finds a line at its terminator, if it finds the lines behind that. -/
lemma scanLines_line (front : List UInt8) (held : List Char) {e : Ending} {rest : List Char}
    (hend : ∀ before, terminatorEnd? (before ++ (utf8 e.chars ++ utf8 rest)) before.length =
      some (before ++ utf8 e.chars).length)
    (hrest : ∀ front, scanLines (front ++ utf8 [] ++ utf8 rest) front.length
      (front ++ utf8 []).length = (readLines [] rest).map Line.bytes) :
    scanLines (front ++ utf8 held.reverse ++ utf8 (e.chars ++ rest)) front.length
        (front ++ utf8 held.reverse).length =
      (⟨String.ofList held.reverse, e⟩ :: readLines [] rest).map Line.bytes := by
  have hnil : utf8 [] = [] := rfl
  have hbehind := hrest (front ++ utf8 held.reverse ++ utf8 e.chars)
  rw [hnil, List.append_nil] at hbehind
  rw [utf8_append, scanLines_cut (hend _), hbehind, List.map_cons, Line.bytes,
    String.toList_ofList]

/-- **A scan of bytes.** From the start of a line on, of which some characters are behind it, a scan
finds the bytes of the lines that are read.

**Proof sketch.** The induction follows the reader of characters. A terminator has the bytes that
the scan looks for, and no other character has one of them among its bytes. -/
theorem scanLines_readLines (front : List UInt8) (held cs : List Char) :
    scanLines (front ++ utf8 held.reverse ++ utf8 cs) front.length
        (front ++ utf8 held.reverse).length =
      (readLines held cs).map Line.bytes := by
  fun_induction readLines held cs generalizing front with
  | case1 => simp [utf8, scanLines]
  | case2 c held =>
    have hnil : utf8 [] = [] := rfl
    have hne : utf8 (c :: held).reverse ≠ [] := by simp [utf8]
    have hpos := List.length_pos_iff.mpr hne
    rw [hnil, List.append_nil, scanLines, if_neg (by simp),
      if_pos (by rw [List.length_append]; omega)]
    have hslice := slice_middle front (utf8 (c :: held).reverse) []
    rw [List.append_nil] at hslice
    rw [hslice, List.map_singleton, Line.bytes, String.toList_ofList]
    rfl
  | case3 held rest ih =>
    refine scanLines_line (e := .returnFeed) front held (fun before => ?_) ih
    have hchars : utf8 Ending.returnFeed.chars = [returnByte, feedByte] := by decide
    simp [terminatorEnd?, hchars, feedByte, returnByte]
  | case4 held rest hfeed ih =>
    refine scanLines_line (e := .carriage) front held (fun before => ?_) ih
    have hchars : utf8 Ending.carriage.chars = [returnByte] := by decide
    have hnext : (before ++ returnByte :: utf8 rest)[before.length + 1]? ≠ some feedByte := by
      rw [List.getElem?_append_right (by omega), Nat.add_sub_cancel_left, List.getElem?_cons_succ,
        ← List.head?_eq_getElem?]
      refine head?_utf8_ne fun hhead => ?_
      obtain ⟨others, hothers⟩ := List.head?_eq_some_iff.mp hhead
      exact hfeed others hothers
    simpa [terminatorEnd?, hchars, feedByte, returnByte] using hnext
  | case5 held rest ih =>
    refine scanLines_line (e := .feed) front held (fun before => ?_) ih
    have hchars : utf8 Ending.feed.chars = [feedByte] := by decide
    simp [terminatorEnd?, hchars]
  | case6 held c rest _ hcarriage hfeed ih =>
    have hc : isBreak c = false := by simpa [isBreak] using ⟨hfeed, hcarriage⟩
    have hchar : utf8 (c :: rest) = String.utf8EncodeChar c ++ utf8 rest := List.flatMap_cons
    have hheld : utf8 (c :: held).reverse = utf8 held.reverse ++ String.utf8EncodeChar c := by
      simp [utf8]
    have hskip := scanLines_skip (front ++ utf8 held.reverse) (utf8 rest) front.length
      fun b hb => isBreakByte_of_mem hc hb
    have hrest := ih front
    rw [hheld] at hrest
    rw [hchar, ← List.append_assoc, hskip, ← hrest]
    simp only [List.append_assoc]

/-- A scan of the bytes of a text finds its lines. -/
theorem scanLines_utf8 (s : String) :
    scanLines (utf8 s.toList) 0 0 = (splitLines s).map Line.bytes :=
  scanLines_readLines [] [] s.toList

/-! ## The lines of a text -/

/-- The lines of a text: with their terminators they are the text, each is on one line, all but the
last have a terminator and the last is not empty if it has none, and no carriage return has a line
feed behind it that is taken for a line of its own. -/
structure LinesOf (s : String) (ls : List Line) : Prop where
  flatten : ls.flatMap Line.chars = s.toList
  single : ∀ l ∈ ls, '\n' ∉ l.text.toList ∧ '\r' ∉ l.text.toList
  ended : ∀ l ∈ ls.dropLast, l.ending.text = "\n" ∨ l.ending.text = "\r\n" ∨ l.ending.text = "\r"
  last : ∀ l ∈ ls, l.ending.text = "" → l.text ≠ ""
  apart : ls.IsChain fun l m =>
    ¬ (l.ending.text = "\r" ∧ m.text = "" ∧ m.ending.text = "\n")

section

variable {s : String} {ls : List Line}

lemma singleLine_iff {t : String} : SingleLine t ↔ '\n' ∉ t.toList ∧ '\r' ∉ t.toList := by
  simp only [SingleLine, isBreak, Bool.or_eq_false_iff, beq_eq_false_iff_ne]
  constructor
  · exact fun h => ⟨fun hfeed => (h _ hfeed).1 rfl, fun hreturn => (h _ hreturn).2 rfl⟩
  · rintro ⟨hfeed, hreturn⟩ c hc
    exact ⟨fun heq => hfeed (heq ▸ hc), fun heq => hreturn (heq ▸ hc)⟩

lemma Line.proper_iff {l : Line} : l.Proper ↔ (l.ending.text = "" → l.text ≠ "") := by
  have hnone : l.ending.text = "" ↔ l.ending = .none := by cases l.ending <;> decide
  rw [Proper, hnone, Ne, Ne, String.toList_eq_nil_iff]

/-- All lines but the last are apart from the next one if they have a terminator, and this is no
carriage return in front of a line feed. -/
lemma isChain_apart_iff :
    ls.IsChain Line.Apart ↔
      (∀ l ∈ ls.dropLast,
        l.ending.text = "\n" ∨ l.ending.text = "\r\n" ∨ l.ending.text = "\r") ∧
      ls.IsChain fun l m => ¬ (l.ending.text = "\r" ∧ m.text = "" ∧ m.ending.text = "\n") := by
  have hended (e : Ending) : e.text = "\n" ∨ e.text = "\r\n" ∨ e.text = "\r" ↔ e ≠ .none := by
    cases e <;> decide
  have hcarriage (e : Ending) : e.text = "\r" ↔ e = .carriage := by cases e <;> decide
  have hfeed (m : Line) : m.text = "" ∧ m.ending.text = "\n" ↔ m = ⟨"", .feed⟩ := by
    obtain ⟨text, ending⟩ := m
    cases ending <;> simp [Ending.text, Ending.chars]
  simp only [hended]
  simp only [hcarriage, hfeed]
  induction ls with
  | nil => simp
  | cons l ls ih =>
    cases ls with
    | nil => simp
    | cons m ls =>
      rw [List.isChain_cons_cons, List.isChain_cons_cons, Line.Apart, List.dropLast_cons_cons,
        List.forall_mem_cons]
      tauto

/-- **The lines of a text.** What a text is split into are its lines: nothing is lost, no line holds a
terminator, only the last one can be without one and is not empty then, and a carriage return and a
line feed behind it are one terminator. No other list of lines is of this kind. The bytes of the
lines are what a scan of the bytes of the text finds. -/
theorem splitLines_exact (s : String) :
    (∀ ls, splitLines s = ls ↔ LinesOf s ls) ∧
      scanLines s.toUTF8.data.toList 0 0 = (splitLines s).map Line.bytes := by
  refine ⟨fun ls => ⟨?_, fun h => ?_⟩, by rw [toList_toUTF8, scanLines_utf8]⟩
  · rintro rfl
    have hlines := singleLine_of_mem_readLines s.toList (List.forall_mem_nil _)
    obtain ⟨hended, hapart⟩ := isChain_apart_iff.mp (isChain_readLines [] s.toList)
    exact ⟨Line.flatten_splitLines s, fun l hl => singleLine_iff.mp (hlines l hl).1, hended,
      fun l hl => Line.proper_iff.mp (hlines l hl).2, hapart⟩
  · have hapart : ls.IsChain Line.Apart := isChain_apart_iff.mpr ⟨h.ended, h.apart⟩
    rw [splitLines, ← h.flatten, readLines_flatMap_iff]
    exact ⟨fun l hl => ⟨singleLine_iff.mpr (h.single l hl), Line.proper_iff.mpr (h.last l hl)⟩,
      hapart⟩

example : splitLines "ä\r\n\r\n\rb" =
    [⟨"ä", .returnFeed⟩, ⟨"", .returnFeed⟩, ⟨"", .carriage⟩, ⟨"b", .none⟩] := by
  decide +kernel

end

end Beans.Text
