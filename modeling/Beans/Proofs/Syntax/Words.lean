import Mathlib.Data.List.TakeWhile
import Mathlib.Tactic.Common
import Beans.Proofs.Syntax.Ensures
import Beans.Proofs.Syntax.Scan
import Beans.Proofs.Text.Blank
import Beans.Syntax.Grammar.Items

/-!
# Words

An identifier is a word, or the raw mark before a word that has a raw form. Which words are
identifiers without the mark is decided by a list of keywords. Here it is said which texts are read
as one identifier, and that the raw mark before anything but a word with a raw form is not read.

## Main definitions

* `Beans.Syntax.IsWord` — a character that starts an identifier, and others that continue it.
* `Beans.Syntax.IsSpelling` — an identifier as it is written.
* `Beans.Syntax.IsName` — a text that is one identifier.

## Main results

* `Beans.Syntax.readToks_of_isSpelling` — an identifier is read as one token.
* `Beans.Syntax.isIdentifier_of_isSpelling` — it is one exactly if it is no keyword.
* `Beans.Syntax.readToks_raw_eq_none`, `Beans.Syntax.readToks_neverRaw` — the raw mark before others.
-/

set_option autoImplicit false

namespace Beans.Syntax

open Text

/-! ## Characters -/

/-- A character that can occur in an identifier. -/
def isIdentifierChar (c : Char) : Bool := isIdentifierStart c || isIdentifierContinue c

lemma isIdentifierChar_of_start {c : Char} (h : isIdentifierStart c = true) :
    isIdentifierChar c = true := by
  rw [isIdentifierChar, h, Bool.true_or]

lemma isIdentifierChar_of_continue {c : Char} (h : isIdentifierContinue c = true) :
    isIdentifierChar c = true := by
  rw [isIdentifierChar, h, Bool.or_true]

/-- The ranges of characters between tokens. -/
def separatorRanges : List (Nat × Nat) := (0x200E, 0x200F) :: blankRanges

lemma inRanges_separatorRanges {c : Char} (h : isSeparator c = true) :
    inRanges separatorRanges c = true := by
  simp only [isSeparator, Bool.or_eq_true, beq_iff_eq, or_assoc] at h
  rcases h with hblank | hmark
  · exact Bool.or_eq_true_iff.mpr (.inr (inRanges_blankRanges hblank))
  · refine Bool.or_eq_true_iff.mpr (.inl ?_)
    rw [Bool.and_eq_true, decide_eq_true_iff, decide_eq_true_iff]
    omega

/-- No character between tokens can occur in an identifier. -/
lemma not_isSeparator {c : Char} (hc : isIdentifierChar c = true) : isSeparator c = false := by
  refine eq_false_of_ne_true fun h => ?_
  have hranges := inRanges_separatorRanges h
  have hstart : isIdentifierStart c = false :=
    eq_false_of_inRanges (fun c => c.isAlpha || c == '_') (by decide +kernel) (by decide +kernel)
      hranges
  have hcontinue : isIdentifierContinue c = false :=
    eq_false_of_inRanges (fun c => c.isAlphanum || c == '_') (by decide +kernel) (by decide +kernel)
      hranges
  rw [isIdentifierChar, hstart, hcontinue] at hc
  cases hc

/-- The characters that tell other tokens apart. -/
def markChars : List Char := "~!@#$%^&*-=+|;:,<.>/?'\"\\()[]\x7b\x7d".toList

/-- No mark can occur in an identifier. -/
lemma ne_of_mem_markChars {c d : Char} (hc : isIdentifierChar c = true) (hd : d ∈ markChars) :
    c ≠ d := by
  have hmarks : markChars.all (!isIdentifierChar ·) = true := by decide +kernel
  rintro rfl
  have hnot := List.all_eq_true.mp hmarks c hd
  rw [hc] at hnot
  cases hnot

/-! ## The start of an identifier -/

section

variable {c : Char} (hc : isIdentifierChar c = true)

include hc

lemma takeGap_eq_none (cs : List Char) : takeGap (c :: cs) = none := by
  have hslash : c ≠ '/' := ne_of_mem_markChars hc (by decide)
  unfold takeGap
  split
  case h_10 heq =>
    cases heq
    rw [not_isSeparator hc]
    rfl
  case h_11 heq => cases heq
  all_goals
    rename_i heq
    cases heq
    exact absurd rfl hslash

lemma startsPunctuation_eq_false (cs : List Char) : startsPunctuation (c :: cs) = false := by
  unfold startsPunctuation
  split
  case h_3 heq =>
    cases heq
    refine eq_false_of_ne_true fun h => ?_
    have hmarks : "~!@#$%^&*-=+|;:,<.>/?'".toList.all markChars.contains = true := by decide
    have hmark := List.all_eq_true.mp hmarks c (List.contains_iff_mem.mp h)
    exact ne_of_mem_markChars hc (List.contains_iff_mem.mp hmark) rfl
  all_goals rfl

lemma openingOf?_eq_none : openingOf? c = none := by
  unfold openingOf?
  split
  case h_4 => rfl
  all_goals exact absurd rfl (ne_of_mem_markChars hc (by decide))

lemma closingOf?_eq_none : closingOf? c = none := by
  unfold closingOf?
  split
  case h_4 => rfl
  all_goals exact absurd rfl (ne_of_mem_markChars hc (by decide))

lemma not_isPrefixOf_faultMark (cs : List Char) : ¬ faultMark.isPrefixOf (c :: cs) = true := by
  have hparen : ('(' == c) = false := beq_false_of_ne (ne_of_mem_markChars hc (by decide)).symm
  intro h
  have hhead : ('(' == c && "/*ERROR*/)".toList.isPrefixOf cs) = true := h
  rw [hparen, Bool.false_and] at hhead
  cases hhead

/-- A text that starts like an identifier is cut at the end of its first token. -/
lemma lexFrom_cons (fuel line : Nat) (cs : List Char) : lexFrom (fuel + 1) line (c :: cs) =
    (scanLeaf line (c :: cs)).bind fun (token, taken, rest) =>
      (lexFrom fuel (line + taken.count '\n') rest).map (.leaf token :: ·) := by
  rw [lexFrom, takeGap_eq_none hc, if_neg (not_isPrefixOf_faultMark hc cs), openingOf?_eq_none hc,
    closingOf?_eq_none hc]
  rfl

/-- A token that is no literal and starts like an identifier is one. -/
lemma scanLeaf_cons {line : Nat} {cs : List Char} (hliteral : scanLiteral (c :: cs) = none)
    (hopenings : (literalOpenings.any fun o => o.toList.isPrefixOf (c :: cs)) = false) :
    scanLeaf line (c :: cs) = (scanIdentifier (c :: cs)).map fun (word, rest) =>
      (.ident (String.ofList word) ⟨line, line⟩, word, rest) := by
  unfold scanLeaf
  rw [hliteral]
  dsimp only
  rw [startsPunctuation_eq_false hc, if_neg Bool.false_ne_true, hopenings,
    if_neg Bool.false_ne_true]
  cases scanIdentifier (c :: cs) <;> rfl

/-- A text that is one identifier is read as one token. -/
lemma readToks_of_scanIdentifier {cs : List Char} (hliteral : scanLiteral (c :: cs) = none)
    (hopenings : (literalOpenings.any fun o => o.toList.isPrefixOf (c :: cs)) = false)
    (hscan : scanIdentifier (c :: cs) = some (c :: cs, [])) :
    readToks (String.ofList (c :: cs)) = some [.ident (String.ofList (c :: cs)) ⟨1, 1⟩] := by
  rw [readToks, lexemes, String.toList_ofList, List.length_cons, lexFrom_cons hc,
    scanLeaf_cons hc hliteral hopenings, hscan]
  cases cs.length <;> rfl

/-- A text that starts with no identifier, although it looks like it, is not read. -/
lemma readToks_eq_none {cs : List Char} (hliteral : scanLiteral (c :: cs) = none)
    (hopenings : (literalOpenings.any fun o => o.toList.isPrefixOf (c :: cs)) = false)
    (hscan : scanIdentifier (c :: cs) = none) : readToks (String.ofList (c :: cs)) = none := by
  rw [readToks, lexemes, String.toList_ofList, List.length_cons, lexFrom_cons hc,
    scanLeaf_cons hc hliteral hopenings, hscan]
  rfl

end

/-! ## Words -/

/-- A character that starts an identifier, and others that continue it. -/
def IsWord (cs : List Char) : Prop :=
  ∃ c rest, cs = c :: rest ∧ isIdentifierStart c = true ∧
    ∀ d ∈ rest, isIdentifierContinue d = true

/-- An identifier as it is written: a word, or the raw mark and a word that has a raw form. -/
def IsSpelling (name : String) : Prop :=
  IsWord name.toList ∨
    ∃ word, name = "r#" ++ word ∧ IsWord word.toList ∧ word ∉ neverRaw

/-- A text that is one identifier. -/
def IsName (text : String) : Prop :=
  (∃ lines, readToks text = some [.ident text lines]) ∧ text ∉ keywords

section

variable {cs taken rest : List Char}

/-- What is taken as a word is one. -/
lemma isWord_of_scanWord (h : scanWord cs = some (taken, rest)) : IsWord taken := by
  cases cs with
  | nil => cases h
  | cons c cs =>
    rw [scanWord] at h
    split at h
    · cases h
      exact ⟨c, _, rfl, ‹_›, fun d hd => List.mem_takeWhile_imp hd⟩
    · cases h

/-- A word is taken as one. -/
lemma scanWord_of_isWord (h : IsWord cs) : scanWord cs = some (cs, []) := by
  obtain ⟨c, rest, rfl, hstart, hrest⟩ := h
  rw [scanWord, if_pos hstart, spanChars, List.takeWhile_eq_self_iff.mpr hrest,
    List.dropWhile_eq_nil_iff.mpr hrest]

lemma IsWord.isIdentifierChar (h : IsWord cs) {d : Char} (hd : d ∈ cs) :
    isIdentifierChar d = true := by
  obtain ⟨c, rest, rfl, hstart, hrest⟩ := h
  rcases List.mem_cons.mp hd with rfl | hd
  · exact isIdentifierChar_of_start hstart
  · exact isIdentifierChar_of_continue (hrest d hd)

/-- What is taken as an identifier is the spelling of one. -/
lemma isSpelling_of_scanIdentifier (h : scanIdentifier cs = some (taken, rest)) :
    IsSpelling (String.ofList taken) := by
  obtain hword | ⟨word, after, rfl, rfl, hword, hraw⟩ := of_scanIdentifier h
  · refine .inl ?_
    rw [String.toList_ofList]
    exact isWord_of_scanWord hword
  · refine .inr ⟨String.ofList word, ?_, ?_, hraw⟩
    · rw [← String.toList_inj, String.toList_append]
      simp
    · rw [String.toList_ofList]
      exact isWord_of_scanWord hword

end

/-! ## Words are no literals -/

/-- A raw string has a quote after its marks. -/
lemma scanRawString_eq_none {ascii : Bool} {lead cs : List Char}
    (h : ∀ rest, cs.dropWhile (· == '#') ≠ '"' :: rest) : scanRawString ascii lead cs = none := by
  unfold scanRawString
  dsimp only [spanChars]
  split
  · exact absurd ‹_› (h _)
  · rfl

/-- What can occur in an identifier opens no raw string. -/
lemma scanRawString_of_chars {ascii : Bool} {lead cs : List Char}
    (h : ∀ d ∈ cs, isIdentifierChar d = true) : scanRawString ascii lead cs = none := by
  refine scanRawString_eq_none fun rest hrest => ?_
  have hmem : '"' ∈ cs := (List.dropWhile_suffix _).subset (hrest ▸ List.mem_cons_self)
  exact ne_of_mem_markChars (h _ hmem) (by decide) rfl

/-- No decimal digit starts an identifier. -/
lemma not_isDigit_of_start {c : Char} (h : isIdentifierStart c = true) : c.isDigit = false := by
  have hdigits : ∀ n ∈ List.range' 48 10, isIdentifierStart (Char.ofNat n) = false := by decide
  refine eq_false_of_ne_true fun hdigit => ?_
  obtain ⟨hlow, hhigh⟩ := Bool.and_eq_true_iff.mp hdigit
  have hfrom : 48 ≤ c.toNat := UInt32.le_iff_toNat_le.mp (of_decide_eq_true hlow)
  have hto : c.toNat ≤ 57 := UInt32.le_iff_toNat_le.mp (of_decide_eq_true hhigh)
  have hnot := hdigits c.toNat (List.mem_range'_1.mpr ⟨hfrom, by omega⟩)
  rw [Char.ofNat_toNat, h] at hnot
  cases hnot

section

variable {c : Char} (hdigit : c.isDigit = false)

include hdigit

lemma scanFloat_eq_none (cs : List Char) : scanFloat (c :: cs) = none := by
  have hhead : ((c :: cs).takeWhile isDigitMark).head?.any Char.isDigit = false := by
    rw [List.takeWhile_cons]
    split
    · exact hdigit
    · rfl
  unfold scanFloat
  dsimp only [spanChars]
  rw [if_neg (by rw [hhead]; exact Bool.false_ne_true)]

/-- A digit of another base than ten stands for at least ten. -/
lemma le_of_hexValue? {v : Nat} (h : hexValue? c = some v) : 10 ≤ v := by
  have hle {d : Char} (hd : d ≤ c) : d.toNat ≤ c.toNat := UInt32.le_iff_toNat_le.mp hd
  unfold hexValue? at h
  rw [hdigit, if_neg Bool.false_ne_true] at h
  split at h
  · rename_i hrange
    have hfrom : 97 ≤ c.toNat := hle hrange.1
    cases h
    omega
  · split at h
    · rename_i hrange
      have hfrom : 65 ≤ c.toNat := hle hrange.1
      cases h
      omega
    · cases h

lemma scanDigits_eq_none (cs : List Char) : scanDigits 10 (c :: cs) = none := by
  unfold scanDigits
  dsimp only [spanChars]
  by_cases hlow : c = '_'
  case pos =>
    subst hlow
    rw [List.takeWhile_cons_of_pos rfl]
    split
    · rfl
    · rfl
  case neg =>
    rw [List.takeWhile_cons_of_neg]
    · rfl
    · rw [beq_false_of_ne hlow, Bool.false_or]
      cases hvalue : hexValue? c with
      | none => exact Bool.false_ne_true
      | some v =>
        have hv : ¬ v < 10 := not_lt.mpr (le_of_hexValue? hdigit hvalue)
        simp [hv, hdigit]

lemma scanInteger_eq_none (cs : List Char) : scanInteger (c :: cs) = none := by
  have hzero : c ≠ '0' := by
    rintro rfl
    cases hdigit
  have hbased : scanBased (c :: cs) = scanDigits 10 (c :: cs) := by
    unfold scanBased
    split
    case h_4 => rfl
    all_goals
      rename_i heq
      cases heq
      exact absurd rfl hzero
  rw [scanInteger, hbased, scanDigits_eq_none hdigit]
  rfl

end

/-- No literal looks like a word. -/
lemma scanLiteral_of_isWord {cs : List Char} (h : IsWord cs) : scanLiteral cs = none := by
  have hchar {d : Char} (hd : d ∈ cs) : isIdentifierChar d = true := h.isIdentifierChar hd
  have hquote : '"' ∉ cs := fun hmem => ne_of_mem_markChars (hchar hmem) (by decide) rfl
  have hsingle : '\'' ∉ cs := fun hmem => ne_of_mem_markChars (hchar hmem) (by decide) rfl
  unfold scanLiteral
  split
  case h_1 | h_2 | h_3 => exact absurd (by simp) hquote
  case h_4 | h_5 => exact absurd (by simp) hsingle
  case h_6 | h_7 | h_8 => exact scanRawString_of_chars fun d hd => hchar (by simp [hd])
  case h_9 =>
    obtain ⟨c, rest, rfl, hstart, -⟩ := h
    rw [scanFloat_eq_none (not_isDigit_of_start hstart),
      scanInteger_eq_none (not_isDigit_of_start hstart)]
    rfl

/-- No literal has its opening inside a word. -/
lemma not_literalOpenings {cs : List Char} (h : ∀ d ∈ cs, isIdentifierChar d = true) :
    (literalOpenings.any fun o => o.toList.isPrefixOf cs) = false := by
  have hopenings : literalOpenings.all (·.toList.any markChars.contains) = true := by
    decide +kernel
  refine List.any_eq_false.mpr fun o ho hprefix => ?_
  obtain ⟨d, hd, hmark⟩ := List.any_eq_true.mp (List.all_eq_true.mp hopenings o ho)
  have hmem : d ∈ cs := (List.isPrefixOf_iff_prefix.mp hprefix).subset hd
  exact ne_of_mem_markChars (h d hmem) (List.contains_iff_mem.mp hmark) rfl

/-! ## The raw mark -/

section

variable {c : Char} {cs : List Char} (hc : isIdentifierChar c = true)

include hc

/-- No literal looks like the raw mark before a character of an identifier. -/
lemma scanLiteral_raw : scanLiteral ('r' :: '#' :: c :: cs) = none := by
  have hmark : (c == '#') = false := beq_false_of_ne (ne_of_mem_markChars hc (by decide))
  have hquote : c ≠ '"' := ne_of_mem_markChars hc (by decide)
  refine scanRawString_eq_none fun rest hrest => ?_
  rw [List.dropWhile_cons_of_pos rfl, List.dropWhile_cons_of_neg] at hrest
  · exact hquote (List.cons_eq_cons.mp hrest).1
  · rw [hmark]
    exact Bool.false_ne_true

lemma not_literalOpenings_raw :
    (literalOpenings.any fun o => o.toList.isPrefixOf ('r' :: '#' :: c :: cs)) = false := by
  have hmark : ('#' == c) = false := beq_false_of_ne (ne_of_mem_markChars hc (by decide)).symm
  have hquote : ('"' == c) = false := beq_false_of_ne (ne_of_mem_markChars hc (by decide)).symm
  simp [literalOpenings, List.isPrefixOf, hmark, hquote]

end

/-! ## Identifiers -/

lemma isIdentifierChar_r : isIdentifierChar 'r' = true := by decide

/-- A word is taken as an identifier. -/
lemma scanIdentifier_of_isWord {cs : List Char} (h : IsWord cs) :
    scanIdentifier cs = some (cs, []) := by
  unfold scanIdentifier
  split
  · have hmark : isIdentifierChar '#' = true := h.isIdentifierChar (by simp)
    exact absurd rfl (ne_of_mem_markChars hmark (by decide))
  · exact scanWord_of_isWord h

/-- The raw mark and a word with a raw form are taken as an identifier. -/
lemma scanIdentifier_raw {word : String} (h : IsWord word.toList) (hraw : word ∉ neverRaw) :
    scanIdentifier ('r' :: '#' :: word.toList) = some ('r' :: '#' :: word.toList, []) := by
  have hnot : ¬ neverRaw.contains (String.ofList word.toList) = true := by
    rwa [String.ofList_toList, List.contains_iff_mem]
  rw [scanIdentifier, scanWord_of_isWord h]
  exact if_neg hnot

lemma ofList_raw (word : String) : String.ofList ('r' :: '#' :: word.toList) = "r#" ++ word := by
  rw [← String.toList_inj, String.toList_append]
  simp

/-- **An identifier is read as one token.** -/
theorem readToks_of_isSpelling {name : String} (h : IsSpelling name) :
    readToks name = some [.ident name ⟨1, 1⟩] := by
  rcases h with h | ⟨word, rfl, h, hraw⟩
  · have hliteral := scanLiteral_of_isWord h
    have hopenings := not_literalOpenings fun _ => h.isIdentifierChar
    have hscan := scanIdentifier_of_isWord h
    obtain ⟨c, rest, hname, hstart, -⟩ := h
    rw [hname] at hliteral hopenings hscan
    rw [← String.ofList_toList (s := name), hname]
    exact readToks_of_scanIdentifier (isIdentifierChar_of_start hstart) hliteral hopenings hscan
  · have hscan := scanIdentifier_raw h hraw
    rw [← ofList_raw]
    obtain ⟨c, rest, hname, hstart, -⟩ := h
    rw [hname] at hscan ⊢
    have hc := isIdentifierChar_of_start hstart
    exact readToks_of_scanIdentifier isIdentifierChar_r (scanLiteral_raw hc)
      (not_literalOpenings_raw hc) hscan

/-- Behind the raw mark there has to be a word. -/
lemma readToks_raw_eq_none {word : String} {c : Char} {rest : List Char}
    (hword : word.toList = c :: rest) (hc : isIdentifierChar c = true)
    (hstart : isIdentifierStart c = false) : readToks ("r#" ++ word) = none := by
  have hscan : scanIdentifier ('r' :: '#' :: c :: rest) = none := by
    rw [scanIdentifier, scanWord, if_neg (by rw [hstart]; exact Bool.false_ne_true)]
    rfl
  rw [← ofList_raw, hword]
  exact readToks_eq_none isIdentifierChar_r (scanLiteral_raw hc) (not_literalOpenings_raw hc) hscan

/-- Some words have no raw form. -/
lemma readToks_neverRaw : ∀ word ∈ neverRaw, readToks ("r#" ++ word) = none := by decide +kernel

/-- An identifier is taken unless it is a keyword. -/
lemma run_ident_cons (name : String) (lines : Lines) (rest written : List Tok) :
    Reader.ident.run ⟨.ident name lines :: rest, written⟩ =
      if keywords.contains name then none
      else some (name, ⟨rest, .ident name lines :: written⟩) := by
  change ((Reader.ensure atIdent).run _).bind _ = _
  rw [Reader.run_ensure, atIdent]
  cases keywords.contains name <;> rfl

/-- A text is an identifier if it is read as one token, which is none of the keywords. -/
lemma isIdentifier_iff {text : String} : isIdentifier text = true ↔
    ∃ name lines, readToks text = some [.ident name lines] ∧ name ∉ keywords := by
  have hwhole (toks : List Tok) : (Reader.whole Reader.ident toks).isSome = true ↔
      ∃ name lines, toks = [.ident name lines] ∧ name ∉ keywords := by
    cases toks with
    | nil => exact iff_of_false (by decide) (by simp)
    | cons t rest =>
      cases t with
      | punct | literal | group => exact iff_of_false Bool.false_ne_true (by simp)
      | ident name lines =>
        rw [Reader.whole, run_ident_cons]
        cases hkeyword : keywords.contains name with
        | true =>
          have hmem : name ∈ keywords := List.contains_iff_mem.mp hkeyword
          exact iff_of_false Bool.false_ne_true (by simp [hmem])
        | false =>
          have hmem : name ∉ keywords := by simpa using hkeyword
          cases rest with
          | nil => exact iff_of_true rfl ⟨name, lines, rfl, hmem⟩
          | cons t rest => exact iff_of_false Bool.false_ne_true (by simp)
  rw [isIdentifier, readText]
  cases htoks : readToks text with
  | none => exact iff_of_false Bool.false_ne_true (by simp)
  | some toks =>
    rw [Option.bind_some, readAll, Option.isSome_map, hwhole]
    simp

/-- The spelling of an identifier is one exactly if it is no keyword. -/
lemma isIdentifier_of_isSpelling {name : String} (h : IsSpelling name) :
    isIdentifier name = true ↔ name ∉ keywords := by
  rw [isIdentifier_iff, readToks_of_isSpelling h]
  simp

/-- The spelling of an identifier that is no keyword is a name. -/
lemma isName_of_isSpelling {name : String} (h : IsSpelling name) (hkeyword : name ∉ keywords) :
    IsName name :=
  ⟨⟨_, readToks_of_isSpelling h⟩, hkeyword⟩

/-! ## What is no identifier -/

/-- The tokens before the outermost open group, the last one first. -/
def outermost : List (Delimiter × Nat × List Tok) → List Tok → List Tok
  | [], held => held
  | (_, _, outer) :: frames, _ => outermost frames outer

/-- What stands before all open groups stays where it is. -/
lemma prefix_of_treesFrom {frames : List (Delimiter × Nat × List Tok)} {held toks : List Tok}
    {pieces : List Lexeme} (h : treesFrom frames held pieces = some toks) :
    (outermost frames held).reverse <+: toks := by
  have hgrows (frames : List (Delimiter × Nat × List Tok)) (t : Tok) (held : List Tok) :
      (outermost frames held).reverse <+: (outermost frames (t :: held)).reverse := by
    cases frames with
    | nil => exact List.reverse_prefix.mpr (List.suffix_cons t held)
    | cons => exact List.prefix_rfl
  fun_induction treesFrom frames held pieces with
  | case1 held =>
    cases h
    exact List.prefix_rfl
  | case2 => cases h
  | case3 frames held d line rest ih => exact ih h
  | case4 line outer frames held d line' rest ih => exact (hgrows frames _ outer).trans (ih h)
  | case5 => cases h
  | case6 => cases h
  | case7 frames held t rest ih => exact (hgrows frames t held).trans (ih h)

/-- What cannot start an identifier is none, even if it could continue one: it is a number, or
nothing. -/
lemma isIdentifier_eq_false {name : String} {c : Char} {rest : List Char}
    (hname : name.toList = c :: rest) (hc : isIdentifierChar c = true)
    (hstart : isIdentifierStart c = false) : isIdentifier name = false := by
  refine eq_false_of_ne_true fun h => ?_
  obtain ⟨word, lines, htoks, -⟩ := isIdentifier_iff.mp h
  obtain ⟨pieces, hpieces, htrees⟩ := Option.bind_eq_some_iff.mp htoks
  rw [lexemes, hname, List.length_cons, lexFrom_cons hc] at hpieces
  obtain ⟨⟨t, taken, after⟩, hleaf, hpieces⟩ := Option.bind_eq_some_iff.mp hpieces
  obtain ⟨others, -, rfl⟩ := Option.map_eq_some_iff.mp hpieces
  have hword : scanIdentifier (c :: rest) = none := by
    unfold scanIdentifier
    split
    case h_1 heq =>
      cases heq
      cases hstart
    case h_2 => rw [scanWord, hstart, if_neg Bool.false_ne_true]
  cases leafCut_of_scanLeaf hleaf with
  | literal =>
    obtain ⟨more, hmore⟩ := @prefix_of_treesFrom [] [_] _ _ htrees
    cases hmore
  | punct _ _ hpunctuation =>
    rw [startsPunctuation_eq_false hc] at hpunctuation
    cases hpunctuation
  | ident hscan _ =>
    rw [hword] at hscan
    cases hscan

end Beans.Syntax
