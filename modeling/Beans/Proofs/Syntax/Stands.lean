import Mathlib.Tactic.Common
import Beans.Proofs.Syntax.Scan
import Beans.Syntax.Lexer

/-!
# Where tokens stand

Every token knows the lines that it stands on. Comments, white space and literals can go over
several lines, so lines are counted while a text is cut into its pieces. The count is true: the
characters that can end a declaration, a closing brace and a semicolon, stand on the line that their
token gives for them.

## Main definitions

* `Beans.Syntax.Resumes` — the line of a text on which a rest of it begins.
* `Beans.Syntax.Tok.ending?` — the character that a token can end a declaration with, and its line.
* `Beans.Syntax.StandsOn` — a character stands on a line of a text.

## Main results

* `Beans.Syntax.stands_of_readToks` — the tokens of a text end where they say.
-/

set_option autoImplicit false

namespace Beans.Syntax

open Text

/-! ## Lines of a text -/

/-- What is left of a text begins on its line `line`. -/
def Resumes (text : List Char) (line : Nat) (rest : List Char) : Prop :=
  ∃ before, before ++ rest = text ∧ 1 + before.count '\n' = line

/-- A character stands on line `line` of a text. -/
def StandsOn (text : List Char) (c : Char) (line : Nat) : Prop :=
  ∃ after, Resumes text line (c :: after)

section

variable {text cs taken rest : List Char} {line feeds : Nat}

lemma Resumes.refl (cs : List Char) : Resumes cs 1 cs := ⟨[], rfl, rfl⟩

lemma Resumes.of_append (h : taken ++ rest = cs) : Resumes cs (1 + taken.count '\n') rest :=
  ⟨taken, h, rfl⟩

lemma Resumes.trans (h : Resumes text line cs) (hrest : Resumes cs (1 + feeds) rest) :
    Resumes text (line + feeds) rest := by
  obtain ⟨before, rfl, rfl⟩ := h
  obtain ⟨taken, rfl, hfeeds⟩ := hrest
  refine ⟨before ++ taken, List.append_assoc _ _ _, ?_⟩
  rw [List.count_append]
  omega

/-- Lines are counted alike from a place on the first line. -/
lemma Resumes.of_first (h : Resumes text 1 cs) (hrest : Resumes cs line rest) :
    Resumes text line rest := by
  obtain ⟨taken, htaken, rfl⟩ := hrest
  exact h.trans ⟨taken, htaken, rfl⟩

variable {c : Char} (hc : c ≠ '\n')

include hc

/-- After a character that ends no line the same line goes on. -/
lemma Resumes.tail (h : Resumes text line (c :: cs)) : Resumes text line cs := by
  obtain ⟨before, rfl, rfl⟩ := h
  exact ⟨before ++ [c], by simp, by simp [hc]⟩

/-- A character that ends no line may be put before a text. -/
lemma Resumes.cons (h : Resumes cs line rest) : Resumes (c :: cs) line rest := by
  obtain ⟨before, rfl, rfl⟩ := h
  exact ⟨c :: before, rfl, by simp [hc]⟩

end

/-! ## Gaps -/

section

variable {cs taken rest : List Char}

/-- A line is taken without its terminator. -/
lemma resumes_of_takeLine (h : takeLine cs = (taken, rest)) :
    Resumes cs (1 + taken.count '\n') rest := by
  fun_induction takeLine cs generalizing taken with
  | case1 =>
    cases h
    exact Resumes.refl []
  | case2 cs =>
    cases h
    exact Resumes.refl _
  | case3 cs =>
    cases h
    exact ⟨['\r'], rfl, rfl⟩
  | case4 c cs hfeed _ inner after htake ih =>
    cases h
    have hc : c ≠ '\n' := fun heq => hfeed heq
    rw [List.count_cons_of_ne hc]
    exact (ih htake).cons hc

lemma takeComment_append {depth : Nat} (h : takeComment depth cs = some (taken, rest)) :
    taken ++ rest = cs := by
  fun_induction takeComment depth cs generalizing taken with
  | case1 => cases h
  | case2 depth cs ih =>
    obtain ⟨⟨inner, after⟩, htake, heq⟩ := Option.map_eq_some_iff.mp h
    cases heq
    rw [List.cons_append, List.cons_append, ih htake]
  | case3 depth cs hdepth =>
    cases h
    rfl
  | case4 depth cs hdepth ih =>
    obtain ⟨⟨inner, after⟩, htake, heq⟩ := Option.map_eq_some_iff.mp h
    cases heq
    rw [List.cons_append, List.cons_append, ih htake]
  | case5 depth c cs _ _ ih =>
    obtain ⟨⟨inner, after⟩, htake, heq⟩ := Option.map_eq_some_iff.mp h
    cases heq
    rw [List.cons_append, ih htake]

lemma takeBlock_append (h : takeBlock cs = some (taken, rest)) : taken ++ rest = cs := by
  unfold takeBlock at h
  split at h
  · obtain ⟨⟨inner, after⟩, htake, heq⟩ := Option.map_eq_some_iff.mp h
    cases heq
    rw [List.cons_append, List.cons_append, takeComment_append htake]
  · cases h

end

/-- The characters of a gap. -/
def Gap.taken : Gap → List Char
  | .skip taken _ | .docs _ _ taken _ => taken

/-- What follows a gap. -/
def Gap.rest : Gap → List Char
  | .skip _ rest | .docs _ _ _ rest => rest

lemma resumes_of_skip {cs : List Char} {gap : Gap}
    (h : (takeBlock cs).map (fun p => Gap.skip p.1 p.2) = some gap) :
    Resumes cs (1 + gap.taken.count '\n') gap.rest := by
  obtain ⟨⟨taken, rest⟩, htake, rfl⟩ := Option.map_eq_some_iff.mp h
  exact Resumes.of_append (takeBlock_append htake)

lemma resumes_of_takeLineDocs {inner : Bool} {mark cs : List Char} {gap : Gap}
    (hmark : '\n' ∉ mark) (h : takeLineDocs inner mark cs = some gap) :
    Resumes (mark ++ cs) (1 + gap.taken.count '\n') gap.rest := by
  unfold takeLineDocs at h
  split at h
  rename_i text rest htake
  split at h
  · cases h
    obtain ⟨before, rfl, hbefore⟩ := resumes_of_takeLine htake
    refine ⟨mark ++ before, List.append_assoc _ _ _, ?_⟩
    have hnone : mark.count '\n' = 0 := List.count_eq_zero.mpr hmark
    simpa [Gap.taken, hnone] using hbefore
  · cases h

lemma resumes_of_takeBlockDocs {inner : Bool} {cs : List Char} {gap : Gap}
    (h : takeBlockDocs inner cs = some gap) :
    Resumes cs (1 + gap.taken.count '\n') gap.rest := by
  obtain ⟨⟨taken, rest⟩, htake, h⟩ := Option.bind_eq_some_iff.mp h
  dsimp only at h
  split at h
  · cases h
    exact Resumes.of_append (takeBlock_append htake)
  · cases h

/-- After a gap the text goes on further down by the line feeds in the gap. -/
lemma resumes_of_takeGap {cs : List Char} {gap : Gap} (h : takeGap cs = some gap) :
    Resumes cs (1 + gap.taken.count '\n') gap.rest := by
  unfold takeGap at h
  split at h
  · cases h
    exact resumes_of_takeLine rfl
  · exact resumes_of_takeLineDocs (by decide) h
  · exact resumes_of_takeLineDocs (by decide) h
  · cases h
    exact resumes_of_takeLine rfl
  · cases h
    exact Resumes.of_append rfl
  · exact resumes_of_skip h
  · exact resumes_of_takeBlockDocs h
  · exact resumes_of_takeBlockDocs h
  · exact resumes_of_skip h
  · split at h
    · cases h
      exact Resumes.of_append rfl
    · cases h
  · cases h

/-! ## Lexemes -/

/-- The character that a token can end a declaration with, and the line that the token gives for
it. -/
def Tok.ending? : Tok → Option (Char × Nat)
  | .group .brace _ lines => some ('}', lines.last)
  | .punct ';' _ lines => some (';', lines.first)
  | _ => none

/-- Only a semicolon ends a declaration as punctuation, on its line. -/
lemma Tok.of_ending?_punct {c : Char} {joint : Bool} {lines : Lines} {e : Char × Nat}
    (h : e ∈ (Tok.punct c joint lines).ending?) : c = ';' ∧ e = (c, lines.first) := by
  unfold ending? at h
  split at h
  case h_1 heq => cases heq
  case h_2 heq =>
    cases heq
    cases h
    exact ⟨rfl, rfl⟩
  case h_3 => cases h

/-- The same for a flat piece of a text. -/
def Lexeme.ending? : Lexeme → Option (Char × Nat)
  | .closing .brace line => some ('}', line)
  | .leaf t => t.ending?
  | _ => none

/-- What is given as an ending stands on its line. -/
def Stands (text : List Char) (ending : Option (Char × Nat)) : Prop :=
  ∀ e ∈ ending, StandsOn text e.1 e.2

lemma stands_none (text : List Char) : Stands text none := nofun

section

variable {text cs : List Char} {line : Nat}

lemma ending?_docToks (inner : Bool) (docs : String) (lines : Lines) :
    ∀ t ∈ docToks inner docs lines, t.ending? = none := by
  cases inner <;> simp [docToks, Tok.ending?]

/-- A single token that can end a declaration is the character at the start of what it is read
from. -/
lemma ending?_scanLeaf {t : Tok} {taken rest : List Char}
    (h : scanLeaf line cs = some (t, taken, rest)) {e : Char × Nat} (he : e ∈ t.ending?) :
    e.2 = line ∧ ∃ after, cs = e.1 :: after := by
  cases leafCut_of_scanLeaf h with
  | literal | ident => cases he
  | punct joint hcs _ =>
    obtain ⟨rfl, rfl⟩ := Tok.of_ending?_punct he
    exact ⟨rfl, _, hcs⟩

lemma ne_feed_of_closingOf? {c : Char} {d : Delimiter} (h : closingOf? c = some d) : c ≠ '\n' := by
  rintro rfl
  cases h

lemma ne_feed_of_openingOf? {c : Char} {d : Delimiter} (h : openingOf? c = some d) : c ≠ '\n' := by
  rintro rfl
  cases h

/-- A brace that closes a group stands where the group says that it ends. -/
lemma stands_closing {c : Char} {d : Delimiter} (hc : closingOf? c = some d)
    (hcs : Resumes text line (c :: cs)) : Stands text (Lexeme.closing d line).ending? := by
  cases d with
  | paren | bracket => exact stands_none text
  | brace =>
    rintro e ⟨⟩
    unfold closingOf? at hc
    split at hc <;> cases hc
    exact ⟨cs, hcs⟩

/-- The mark of a fault is passed on one line. -/
lemma resumes_drop_faultMark (h : faultMark.isPrefixOf cs) (hcs : Resumes text line cs) :
    Resumes text line (cs.drop faultMark.length) := by
  have happend := List.prefix_iff_eq_append.mp (List.isPrefixOf_iff_prefix.mp h)
  have hpassed : Resumes cs (1 + 0) (cs.drop faultMark.length) := ⟨faultMark, happend, by decide⟩
  exact hcs.trans hpassed

/-- **The pieces of a text stand where they say.**

**Proof sketch.** The line that is counted is the line on which the rest of the text begins. Each
piece takes the line feeds that stand in it from the rest, and adds them to the count. -/
theorem stands_of_lexFrom {fuel : Nat} {list : List Lexeme} (hcs : Resumes text line cs)
    (h : lexFrom fuel line cs = some list) : ∀ l ∈ list, Stands text l.ending? := by
  fun_induction lexFrom fuel line cs generalizing list with
  | case1 =>
    cases h
    simp
  | case2 => cases h
  | case3 fuel line c cs taken rest hgap ih =>
    exact ih (hcs.trans (resumes_of_takeGap hgap)) h
  | case4 fuel line c cs inner docs taken rest hgap last =>
    rename_i ih
    obtain ⟨others, hothers, rfl⟩ := Option.map_eq_some_iff.mp h
    refine List.forall_mem_append.mpr ⟨?_, ih (hcs.trans (resumes_of_takeGap hgap)) hothers⟩
    rw [List.forall_mem_map]
    intro t ht
    rw [Lexeme.ending?, ending?_docToks _ _ _ t ht]
    exact stands_none text
  | case5 fuel line c cs _ hmark ih =>
    obtain ⟨others, hothers, rfl⟩ := Option.map_eq_some_iff.mp h
    exact List.forall_mem_cons.mpr
      ⟨stands_none text, ih (resumes_drop_faultMark hmark hcs) hothers⟩
  | case6 fuel line c cs _ _ d hd ih =>
    obtain ⟨others, hothers, rfl⟩ := Option.map_eq_some_iff.mp h
    exact List.forall_mem_cons.mpr
      ⟨stands_none text, ih (hcs.tail (ne_feed_of_openingOf? hd)) hothers⟩
  | case7 fuel line c cs _ _ d hd _ ih =>
    obtain ⟨others, hothers, rfl⟩ := Option.map_eq_some_iff.mp h
    exact List.forall_mem_cons.mpr
      ⟨stands_closing hd hcs, ih (hcs.tail (ne_feed_of_closingOf? hd)) hothers⟩
  | case8 fuel line c cs _ _ _ _ ih =>
    obtain ⟨⟨t, taken, rest⟩, hleaf, h⟩ := Option.bind_eq_some_iff.mp h
    obtain ⟨others, hothers, rfl⟩ := Option.map_eq_some_iff.mp h
    refine List.forall_mem_cons.mpr ⟨fun e he => ?_, ?_⟩
    · obtain ⟨hline, after, hstart⟩ := ending?_scanLeaf hleaf he
      exact ⟨after, hline ▸ hstart ▸ hcs⟩
    · exact ih taken rest (hcs.trans (Resumes.of_append (scanLeaf_append hleaf))) hothers

end

/-- **The tokens of a text end where they say.** -/
theorem stands_of_readToks {text : String} {toks : List Tok} (h : readToks text = some toks) :
    ∀ t ∈ toks, Stands text.toList t.ending? := by
  obtain ⟨pieces, hpieces, htrees⟩ := Option.bind_eq_some_iff.mp h
  refine forall_mem_of_treesFrom (Q := fun l => Stands text.toList l.ending?) (fun _ => id) ?_
    (List.forall_mem_nil _) (List.forall_mem_nil _) (stands_of_lexFrom (Resumes.refl _) hpieces)
    htrees
  -- a group ends where its closing piece stands
  intro d items first last _ hclosing
  cases d with
  | brace => exact hclosing
  | paren | bracket => exact stands_none _

end Beans.Syntax
