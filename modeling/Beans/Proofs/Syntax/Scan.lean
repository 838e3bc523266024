import Mathlib.Data.Option.Basic
import Mathlib.Tactic.Common
import Beans.Syntax.Lexer

/-!
# What scanners take

A scanner gives the characters that it takes from a text, and those after them. Both together are
the text: no character is lost, changed or moved, however long a literal is and whatever marks it
has.

A single token is taken in one of three ways, and trees are built from single tokens by putting them
into groups. So what is known of the pieces of a text is known of its trees.

## Main definitions

* `Beans.Syntax.LeafCut` — how a single token is taken from a text.

## Main results

* `Beans.Syntax.scanLiteral_append` — a literal and what follows it are the text.
* `Beans.Syntax.scanWord_append` — the same for words.
* `Beans.Syntax.leafCut_of_scanLeaf` — all that taking a single token can do.
* `Beans.Syntax.forall_mem_of_treesFrom` — trees keep what the pieces of a text have.
-/

set_option autoImplicit false

namespace Beans.Syntax

open Text

variable {cs taken rest lead : List Char}

lemma append_of_spanChars {p : Char → Bool} (h : spanChars p cs = (taken, rest)) :
    taken ++ rest = cs := by
  cases h
  exact List.takeWhile_append_dropWhile

/-! ## Words and suffixes -/

theorem scanWord_append (h : scanWord cs = some (taken, rest)) : taken ++ rest = cs := by
  cases cs with
  | nil => cases h
  | cons c cs =>
    rw [scanWord] at h
    split at h
    · cases h
      exact congrArg (c :: ·) (append_of_spanChars rfl)
    · cases h

/-- A suffix is moved from what follows a literal to what is taken. -/
lemma withSuffix_append (taken rest : List Char) :
    (withSuffix taken rest).1 ++ (withSuffix taken rest).2 = taken ++ rest := by
  unfold withSuffix
  split
  · rename_i suffix after hword
    rw [List.append_assoc, scanWord_append hword]
  · rfl

lemma append_of_withSuffix {whole after : List Char}
    (h : some (withSuffix whole after) = some (taken, rest)) : taken ++ rest = whole ++ after := by
  have happend := withSuffix_append whole after
  rw [Option.some.inj h] at happend
  exact happend

/-! ## Strings -/

lemma scanUntil_append {delimiter : Char} (h : scanUntil delimiter cs = some (taken, rest)) :
    taken ++ delimiter :: rest = cs := by
  fun_induction scanUntil delimiter cs generalizing taken with
  | case1 => cases h
  | case2 c cs ih =>
    obtain ⟨⟨inner, after⟩, hscan, heq⟩ := Option.map_eq_some_iff.mp h
    cases heq
    rw [List.cons_append, List.cons_append, ih hscan]
  | case3 cs =>
    cases h
    rfl
  | case4 c cs _ _ ih =>
    obtain ⟨⟨inner, after⟩, hscan, heq⟩ := Option.map_eq_some_iff.mp h
    cases heq
    rw [List.cons_append, ih hscan]

lemma scanRaw_append {marks : List Char} (h : scanRaw marks cs = some (taken, rest)) :
    taken ++ '"' :: (marks ++ rest) = cs := by
  fun_induction scanRaw marks cs generalizing taken with
  | case1 => cases h
  | case2 c cs hclosed =>
    cases h
    rw [hclosed.1, List.nil_append,
      List.prefix_iff_eq_append.mp (List.isPrefixOf_iff_prefix.mp hclosed.2)]
  | case3 c cs _ ih =>
    obtain ⟨⟨inner, after⟩, hscan, heq⟩ := Option.map_eq_some_iff.mp h
    cases heq
    rw [List.cons_append, ih hscan]

lemma scanCooked_append {rule : EscapeRule} (h : scanCooked rule lead cs = some (taken, rest)) :
    taken ++ rest = lead ++ '"' :: cs := by
  unfold scanCooked at h
  obtain ⟨⟨inner, after⟩, hscan, h⟩ := Option.bind_eq_some_iff.mp h
  obtain ⟨-, -, h⟩ := Option.bind_eq_some_iff.mp h
  rw [append_of_withSuffix h, ← scanUntil_append hscan]
  simp

lemma scanRawString_append {ascii : Bool} (h : scanRawString ascii lead cs = some (taken, rest)) :
    taken ++ rest = lead ++ cs := by
  unfold scanRawString at h
  split at h
  rename_i marks after hmarks
  split at h
  · split at h
    · cases h
    obtain ⟨⟨inner, last⟩, hscan, h⟩ := Option.bind_eq_some_iff.mp h
    dsimp only at h
    split at h
    · rw [append_of_withSuffix h, ← append_of_spanChars hmarks, ← scanRaw_append hscan]
      simp
    · cases h
  · cases h

/-! ## Characters -/

lemma scanOneChar_append (h : scanOneChar cs = some (taken, rest)) : taken ++ rest = cs := by
  unfold scanOneChar at h
  split at h
  · split at h
    rename_i digits after hdigits
    split at h
    · cases h
      simp [← append_of_spanChars hdigits]
    · cases h
  all_goals cases h
  all_goals rfl

lemma scanCharacter_append {rule : EscapeRule}
    (h : scanCharacter rule lead cs = some (taken, rest)) :
    taken ++ rest = lead ++ '\'' :: cs := by
  unfold scanCharacter at h
  obtain ⟨⟨inner, after⟩, hscan, h⟩ := Option.bind_eq_some_iff.mp h
  dsimp only at h
  split at h
  · split at h
    · rw [append_of_withSuffix h, ← scanOneChar_append hscan]
      simp
    · cases h
  · cases h

/-! ## Numbers -/

lemma scanExponent_append (h : scanExponent cs = some (taken, rest)) : taken ++ rest = cs := by
  unfold scanExponent at h
  split at h
  rename_i lead after hlead
  split at h
  rename_i sign unsigned hsign
  split at h
  rename_i digits last hdigits
  have hunsigned : sign ++ unsigned = after := by
    split at hsign <;> cases hsign <;> rfl
  split at h
  · cases h
    rw [List.append_assoc, List.append_assoc, append_of_spanChars hdigits, hunsigned,
      append_of_spanChars hlead]
  · cases h

lemma scanMarkedExponent_append (h : scanMarkedExponent cs = some (taken, rest)) :
    taken ++ rest = cs := by
  cases cs with
  | nil => cases h
  | cons c cs =>
    rw [scanMarkedExponent] at h
    split at h
    · obtain ⟨⟨exponent, after⟩, hscan, heq⟩ := Option.map_eq_some_iff.mp h
      cases heq
      rw [List.cons_append, scanExponent_append hscan]
    · cases h

/-- The exponent of a number may be left out. -/
lemma getD_scanMarkedExponent_append
    (h : (scanMarkedExponent cs).getD ([], cs) = (taken, rest)) : taken ++ rest = cs := by
  cases hscan : scanMarkedExponent cs with
  | none =>
    rw [hscan] at h
    cases h
    rfl
  | some exponent =>
    rw [hscan] at h
    cases h
    exact scanMarkedExponent_append hscan

lemma scanFloat_append (h : scanFloat cs = some (taken, rest)) : taken ++ rest = cs := by
  unfold scanFloat at h
  split at h
  rename_i whole after hwhole
  split at h
  on_goal 2 => cases h
  split at h
  · split at h
    on_goal 2 => cases h
    split at h
    rename_i fraction unscaled hfraction
    split at h
    rename_i exponent last hexponent
    rw [append_of_withSuffix h, ← append_of_spanChars hwhole, ← append_of_spanChars hfraction,
      ← getD_scanMarkedExponent_append hexponent]
    simp
  · obtain ⟨⟨exponent, last⟩, hexponent, h⟩ := Option.map_eq_some_iff.mp h
    rw [append_of_withSuffix (congrArg some h), ← append_of_spanChars hwhole,
      ← scanMarkedExponent_append hexponent, List.append_assoc]

lemma scanDigits_append {base : Nat} (h : scanDigits base cs = some (taken, rest)) :
    taken ++ rest = cs := by
  unfold scanDigits at h
  extract_lets inBase at h
  split at h
  rename_i digits after hdigits
  dsimp only at h
  split at h
  · cases h
  split at h
  · cases h
  · cases h
    exact append_of_spanChars hdigits

lemma scanBased_append (h : scanBased cs = some (taken, rest)) : taken ++ rest = cs := by
  unfold scanBased at h
  split at h
  on_goal 4 => exact scanDigits_append h
  all_goals
    obtain ⟨⟨digits, after⟩, hscan, heq⟩ := Option.map_eq_some_iff.mp h
    cases heq
    simp [scanDigits_append hscan]

lemma scanInteger_append (h : scanInteger cs = some (taken, rest)) : taken ++ rest = cs := by
  unfold scanInteger at h
  obtain ⟨⟨digits, after⟩, hscan, h⟩ := Option.bind_eq_some_iff.mp h
  dsimp only at h
  split at h
  · cases h
  · rw [append_of_withSuffix h, scanBased_append hscan]

/-! ## Literals -/

/-- **A literal and what follows it are the text.** -/
theorem scanLiteral_append (h : scanLiteral cs = some (taken, rest)) : taken ++ rest = cs := by
  unfold scanLiteral at h
  split at h
  · exact scanCooked_append h
  · exact scanCooked_append h
  · exact scanCooked_append h
  · exact scanCharacter_append h
  · exact scanCharacter_append h
  · exact scanRawString_append h
  · exact scanRawString_append h
  · exact scanRawString_append h
  · rcases (Option.orElse_eq_some _ _ _).mp h with hfloat | ⟨-, hinteger⟩
    · exact scanFloat_append hfloat
    · exact scanInteger_append hinteger

/-! ## Single tokens -/

/-- What is taken as an identifier is a word, or a mark and a word that has a raw form. -/
lemma of_scanIdentifier (h : scanIdentifier cs = some (taken, rest)) :
    scanWord cs = some (taken, rest) ∨ ∃ word after, cs = 'r' :: '#' :: after ∧
      taken = 'r' :: '#' :: word ∧ scanWord after = some (word, rest) ∧
      String.ofList word ∉ neverRaw := by
  unfold scanIdentifier at h
  split at h
  case h_1 after =>
    obtain ⟨⟨word, _⟩, hword, h⟩ := Option.bind_eq_some_iff.mp h
    dsimp only at h
    split at h
    case isTrue => cases h
    case isFalse hraw =>
      cases h
      exact .inr ⟨word, after, rfl, rfl, hword, by simpa using hraw⟩
  case h_2 => exact .inl h

theorem scanIdentifier_append (h : scanIdentifier cs = some (taken, rest)) :
    taken ++ rest = cs := by
  obtain hword | ⟨word, after, rfl, rfl, hword, -⟩ := of_scanIdentifier h
  · exact scanWord_append hword
  · rw [List.cons_append, List.cons_append, scanWord_append hword]

/-- How a single token is taken from a text on line `line`: with the characters that it takes and
those after them. -/
inductive LeafCut (line : Nat) (cs : List Char) : Tok → List Char → List Char → Prop
  | literal {taken rest : List Char} (h : scanLiteral cs = some (taken, rest)) :
      LeafCut line cs (.literal (String.ofList taken) ⟨line, line + taken.count '\n'⟩) taken rest
  | punct {c : Char} {rest : List Char} (joint : Bool) (h : cs = c :: rest)
      (hstart : startsPunctuation cs = true) :
      LeafCut line cs (.punct c joint ⟨line, line⟩) [c] rest
  | ident {word rest : List Char} (h : scanIdentifier cs = some (word, rest))
      (hstart : startsPunctuation cs = false) :
      LeafCut line cs (.ident (String.ofList word) ⟨line, line⟩) word rest

/-- **What taking a single token can do.** -/
theorem leafCut_of_scanLeaf {line : Nat} {t : Tok} (h : scanLeaf line cs = some (t, taken, rest)) :
    LeafCut line cs t taken rest := by
  unfold scanLeaf at h
  split at h
  case h_1 hliteral =>
    cases h
    exact .literal hliteral
  split at h
  case isTrue hstart =>
    -- an apostrophe is punctuation only if no character literal could have been meant
    split at h
    case h_1 =>
      obtain ⟨⟨word, after⟩, -, h⟩ := Option.bind_eq_some_iff.mp h
      dsimp only at h
      split at h
      · cases h
      · cases h
        exact .punct true rfl hstart
    case h_2 =>
      cases h
      exact .punct _ rfl hstart
    case h_3 => cases h
  case isFalse hstart =>
    split at h
    · cases h
    · obtain ⟨⟨word, after⟩, hword, h⟩ := Option.bind_eq_some_iff.mp h
      cases h
      exact .ident hword (eq_false_of_ne_true hstart)

theorem scanLeaf_append {line : Nat} {t : Tok} (h : scanLeaf line cs = some (t, taken, rest)) :
    taken ++ rest = cs := by
  cases leafCut_of_scanLeaf h with
  | literal hliteral => exact scanLiteral_append hliteral
  | punct _ hcs _ => exact hcs.symm
  | ident hword _ => exact scanIdentifier_append hword

/-! ## Trees -/

/-- **Trees keep what the pieces of a text have**, if a group has it as soon as all that stands in
the group has it, and its closing piece too.

**Proof sketch.** The invariant is that the tokens of the innermost group and those before each open
group have it. A closing piece makes a group of the first ones, which is put behind the tokens
before it. -/
theorem forall_mem_of_treesFrom {P : Tok → Prop} {Q : Lexeme → Prop}
    (hleaf : ∀ t, Q (.leaf t) → P t)
    (hgroup : ∀ d items first last, (∀ t ∈ items, P t) → Q (.closing d last) →
      P (.group d items ⟨first, last⟩))
    {frames : List (Delimiter × Nat × List Tok)} {held toks : List Tok} {pieces : List Lexeme}
    (hframes : ∀ frame ∈ frames, ∀ t ∈ frame.2.2, P t) (hheld : ∀ t ∈ held, P t)
    (hpieces : ∀ l ∈ pieces, Q l) (h : treesFrom frames held pieces = some toks) :
    ∀ t ∈ toks, P t := by
  fun_induction treesFrom frames held pieces with
  | case1 held =>
    cases h
    exact fun t ht => hheld t (List.mem_reverse.mp ht)
  | case2 => cases h
  | case3 frames held d line rest ih =>
    exact ih (List.forall_mem_cons.mpr ⟨hheld, hframes⟩) (List.forall_mem_nil _)
      (List.forall_mem_cons.mp hpieces).2 h
  | case4 line outer frames held d line' rest ih =>
    obtain ⟨houter, hframes⟩ := List.forall_mem_cons.mp hframes
    obtain ⟨hclosing, hrest⟩ := List.forall_mem_cons.mp hpieces
    have hnew := hgroup d held.reverse line line' (fun t ht => hheld t (List.mem_reverse.mp ht))
      hclosing
    exact ih hframes (List.forall_mem_cons.mpr ⟨hnew, houter⟩) hrest h
  | case5 => cases h
  | case6 => cases h
  | case7 frames held t rest ih =>
    obtain ⟨hpiece, hrest⟩ := List.forall_mem_cons.mp hpieces
    exact ih hframes (List.forall_mem_cons.mpr ⟨hleaf t hpiece, hheld⟩) hrest h

end Beans.Syntax
