import Mathlib.Tactic.Common
import Beans.Proofs.Syntax.Endings

/-!
# Where declarations start

The tokens of a text are listed in the order of the lines on which they start, and none starts
before the first line. A declaration starts on the line of its first token, its attributes included,
and ends on that of a later one. So no declaration ends before it starts.

## Main definitions

* `Beans.Syntax.InOrder` — lines in their order, from the first one on.
* `Beans.Syntax.Tok.Ends` — a token does not end before it starts.
* `Beans.Syntax.firstLine` — the line on which some tokens start.

## Main results

* `Beans.Syntax.inOrder_of_readToks` — the tokens of a text are in the order of their lines.
* `Beans.Syntax.first_le_ending` — no declaration of a file ends before it starts.
-/

set_option autoImplicit false

namespace Beans.Syntax

/-! ## Pieces of a text -/

/-- Some lines are in their order and none of them is before the line `line`. -/
def InOrder (line : Nat) (lines : List Nat) : Prop := (line :: lines).Pairwise (· ≤ ·)

/-- The line on which a flat piece of a text starts. -/
def Lexeme.start : Lexeme → Nat
  | .opening _ line | .closing _ line => line
  | .leaf t => t.lines.first

/-- A token does not end before it starts. -/
def Tok.Ends (t : Tok) : Prop := t.lines.first ≤ t.lines.last

/-- The same for a flat piece of a text. -/
def Lexeme.Ends : Lexeme → Prop
  | .opening .. | .closing .. => True
  | .leaf t => t.Ends

section

variable {line later : Nat} {lines : List Nat}

lemma inOrder_nil (line : Nat) : InOrder line [] := List.pairwise_singleton _ line

lemma InOrder.mono (hline : line ≤ later) (h : InOrder later lines) : InOrder line lines := by
  obtain ⟨hlater, hlines⟩ := List.pairwise_cons.mp h
  exact List.pairwise_cons.mpr ⟨fun n hn => hline.trans (hlater n hn), hlines⟩

lemma InOrder.cons (h : InOrder line lines) : InOrder line (line :: lines) := by
  refine List.pairwise_cons.mpr ⟨List.forall_mem_cons.mpr ⟨le_rfl, ?_⟩, h⟩
  exact (List.pairwise_cons.mp h).1

/-- A piece is read further, on the line on which a text starts, before what follows it. -/
lemma InOrder.cons_of_le (hline : line ≤ later) (h : InOrder later lines) :
    InOrder line (line :: lines) := (h.mono hline).cons

lemma InOrder.sublist {others : List Nat} (hothers : others.Sublist lines)
    (h : InOrder line lines) : InOrder line others := List.Pairwise.sublist (hothers.cons_cons line) h

/-- A single token starts where the text does from which it is read. -/
lemma lines_scanLeaf {cs taken rest : List Char} {t : Tok}
    (h : scanLeaf line cs = some (t, taken, rest)) : t.lines.first = line ∧ t.Ends := by
  cases leafCut_of_scanLeaf h with
  | literal => exact ⟨rfl, Nat.le_add_right line _⟩
  | punct | ident => exact ⟨rfl, Nat.le_refl line⟩

/-- The tokens of the attribute for a documentation comment are on the lines of the comment. -/
lemma lines_docToks (inner : Bool) (docs : String) (lines : Lines) :
    ∀ t ∈ docToks inner docs lines, t.lines = lines := by
  cases inner <;> simp [docToks, Tok.lines]

lemma InOrder.replicate_append (h : InOrder line lines) (n : Nat) :
    InOrder line (List.replicate n line ++ lines) := by
  induction n with
  | zero => exact h
  | succ n ih => exact ih.cons

/-- **The pieces of a text are in the order of their lines**, from the line on which it starts.

**Proof sketch.** The induction follows the lexer. The line that is counted never goes down, and
each piece starts on the line that is counted when it is read. -/
theorem inOrder_of_lexFrom {fuel : Nat} {cs : List Char} {list : List Lexeme}
    (h : lexFrom fuel line cs = some list) :
    InOrder line (list.map Lexeme.start) ∧ ∀ l ∈ list, l.Ends := by
  fun_induction lexFrom fuel line cs generalizing list with
  | case1 =>
    cases h
    exact ⟨inOrder_nil _, List.forall_mem_nil _⟩
  | case2 => cases h
  | case3 fuel line c cs taken rest _ ih =>
    obtain ⟨horder, hends⟩ := ih h
    exact ⟨horder.mono (Nat.le_add_right line _), hends⟩
  | case4 fuel line c cs inner docs taken rest _ last =>
    rename_i ih
    obtain ⟨others, hothers, rfl⟩ := Option.map_eq_some_iff.mp h
    obtain ⟨horder, hends⟩ := ih hothers
    have hlast : line ≤ last := Nat.le_add_right line _
    have hlines := lines_docToks inner (String.ofList docs) ⟨line, last⟩
    refine ⟨?_, List.forall_mem_append.mpr ⟨?_, hends⟩⟩
    · have hstarts : ((docToks inner (String.ofList docs) ⟨line, last⟩).map Lexeme.leaf).map
          Lexeme.start = List.replicate (docToks inner (String.ofList docs) ⟨line, last⟩).length
            line := by
        rw [List.map_map, List.eq_replicate_iff]
        refine ⟨List.length_map _, List.forall_mem_map.mpr fun t ht => ?_⟩
        exact congrArg Lines.first (hlines t ht)
      rw [List.map_append, hstarts]
      exact (horder.mono hlast).replicate_append _
    · rw [List.forall_mem_map]
      intro t ht
      rw [Lexeme.Ends, Tok.Ends, hlines t ht]
      exact hlast
  | case5 fuel line c cs _ _ ih =>
    obtain ⟨others, hothers, rfl⟩ := Option.map_eq_some_iff.mp h
    obtain ⟨horder, hends⟩ := ih hothers
    exact ⟨horder.cons, List.forall_mem_cons.mpr ⟨le_refl line, hends⟩⟩
  | case6 fuel line c cs _ _ d _ ih =>
    obtain ⟨others, hothers, rfl⟩ := Option.map_eq_some_iff.mp h
    obtain ⟨horder, hends⟩ := ih hothers
    exact ⟨horder.cons, List.forall_mem_cons.mpr ⟨trivial, hends⟩⟩
  | case7 fuel line c cs _ _ d _ _ ih =>
    obtain ⟨others, hothers, rfl⟩ := Option.map_eq_some_iff.mp h
    obtain ⟨horder, hends⟩ := ih hothers
    exact ⟨horder.cons, List.forall_mem_cons.mpr ⟨trivial, hends⟩⟩
  | case8 fuel line c cs _ _ _ _ ih =>
    obtain ⟨⟨t, taken, rest⟩, hleaf, h⟩ := Option.bind_eq_some_iff.mp h
    obtain ⟨others, hothers, rfl⟩ := Option.map_eq_some_iff.mp h
    obtain ⟨horder, hends⟩ := ih taken rest hothers
    obtain ⟨rfl, ht⟩ := lines_scanLeaf hleaf
    exact ⟨horder.cons_of_le (Nat.le_add_right _ _), List.forall_mem_cons.mpr ⟨ht, hends⟩⟩

end

/-! ## Trees -/

/-- The lines on which some tokens start, the last token first. -/
def startsOf (held : List Tok) : List Nat := held.reverse.map fun t => t.lines.first

lemma startsOf_cons (t : Tok) (held : List Tok) :
    startsOf (t :: held) = startsOf held ++ [t.lines.first] := by simp [startsOf]

/-- The tokens before an open group, its opening and the pieces that are left are in the order of
their lines; so are the tokens of the innermost group and the pieces that are left. A group then
starts on the line of its opening. -/
lemma inOrder_of_treesFrom {frames : List (Delimiter × Nat × List Tok)} {held toks : List Tok}
    {pieces : List Lexeme}
    (hframes : ∀ frame ∈ frames, InOrder 1 (startsOf frame.2.2 ++ frame.2.1 ::
      pieces.map Lexeme.start) ∧ ∀ t ∈ frame.2.2, t.Ends)
    (hheld : InOrder 1 (startsOf held ++ pieces.map Lexeme.start)) (hends : ∀ t ∈ held, t.Ends)
    (hpieces : ∀ l ∈ pieces, l.Ends) (h : treesFrom frames held pieces = some toks) :
    InOrder 1 (toks.map fun t => t.lines.first) ∧ ∀ t ∈ toks, t.Ends := by
  have hfewer {frames : List (Delimiter × Nat × List Tok)} {l : Lexeme} {rest : List Lexeme}
      (h : ∀ frame ∈ frames, InOrder 1 (startsOf frame.2.2 ++ frame.2.1 ::
        (l :: rest).map Lexeme.start) ∧ ∀ t ∈ frame.2.2, t.Ends) :
      ∀ frame ∈ frames, InOrder 1 (startsOf frame.2.2 ++ frame.2.1 :: rest.map Lexeme.start) ∧
        ∀ t ∈ frame.2.2, t.Ends :=
    fun frame hframe => ⟨(h frame hframe).1.sublist
      ((List.Sublist.refl _).append ((List.sublist_cons_self _ _).cons_cons _)),
      (h frame hframe).2⟩
  fun_induction treesFrom frames held pieces with
  | case1 held =>
    cases h
    rw [List.map_nil, List.append_nil] at hheld
    exact ⟨hheld, fun t ht => hends t (List.mem_reverse.mp ht)⟩
  | case2 => cases h
  | case3 frames held d line rest ih =>
    refine ih (List.forall_mem_cons.mpr ⟨⟨hheld, hends⟩, hfewer hframes⟩) ?_
      (List.forall_mem_nil _) (List.forall_mem_cons.mp hpieces).2 h
    refine hheld.sublist ?_
    exact (List.sublist_cons_self _ _).trans (List.sublist_append_right _ _)
  | case4 line outer frames held d line' rest ih =>
    obtain ⟨⟨houter, houterEnds⟩, hframes⟩ := List.forall_mem_cons.mp hframes
    have hgroup : line ≤ line' := by
      have hinner := (List.pairwise_append.mp (List.pairwise_cons.mp houter).2).2.1
      exact (List.pairwise_cons.mp hinner).1 line' List.mem_cons_self
    refine ih (hfewer hframes) ?_ (List.forall_mem_cons.mpr ⟨hgroup, houterEnds⟩)
      (List.forall_mem_cons.mp hpieces).2 h
    rw [startsOf_cons, List.append_assoc]
    exact houter.sublist ((List.Sublist.refl _).append ((List.sublist_cons_self _ _).cons_cons _))
  | case5 => cases h
  | case6 => cases h
  | case7 frames held t rest ih =>
    obtain ⟨ht, hrest⟩ := List.forall_mem_cons.mp hpieces
    refine ih (hfewer hframes) ?_ (List.forall_mem_cons.mpr ⟨ht, hends⟩) hrest h
    rw [startsOf_cons, List.append_assoc]
    exact hheld

/-- **The tokens of a text are in the order of their lines.** -/
theorem inOrder_of_readToks {text : String} {toks : List Tok} (h : readToks text = some toks) :
    InOrder 1 (toks.map fun t => t.lines.first) ∧ ∀ t ∈ toks, t.Ends := by
  obtain ⟨pieces, hpieces, htrees⟩ := Option.bind_eq_some_iff.mp h
  obtain ⟨horder, hends⟩ := inOrder_of_lexFrom hpieces
  have hheld : InOrder 1 (startsOf [] ++ pieces.map Lexeme.start) := horder
  exact inOrder_of_treesFrom (List.forall_mem_nil _) hheld (List.forall_mem_nil _) hends htrees

/-! ## Declarations -/

/-- The line on which some tokens start. -/
def firstLine (ts : List Tok) : Nat := (ts.head?.map fun t => t.lines.first).getD 0

/-- A declaration starts where some of the last tokens start, and its ending is among these. -/
def StartsAmong (ts : List Tok) (d : Declaration) : Prop :=
  ∃ ts', ts' <:+ ts ∧ d.lines.first = firstLine ts' ∧ EndsAmong ts' d.ending?

namespace Reader

lemma upward_startsAmong : Upward StartsAmong := by
  rintro ts ts' d hts ⟨last, hlast, hd⟩
  exact ⟨last, hlast.trans hts, hd⟩

/-- A declaration starts on the line that is given for it. -/
lemma ensures_declarationRest_first (f : Forms) (attributes : List Attribute) (vis : Visibility)
    (line : Nat) :
    (declarationRest f attributes vis line).Ensures fun _ d => d.lines.first = line := by
  have hup := upward_const fun d : Declaration => d.lines.first = line
  refine Ensures.after hup _ fun kind => Ensures.after hup _ fun nameLine =>
    Ensures.after hup _ fun name => Ensures.after hup _ fun generics => ?_
  refine Ensures.ite (fun _ => ?_) fun _ => ?_
  · exact Ensures.after hup _ fun ⟨fields, last, conditions⟩ => Ensures.pure fun _ => rfl
  · refine Ensures.after hup _ fun conditions => Ensures.after hup _ fun ts => ?_
    refine Ensures.ite (fun _ => ?_) fun _ => Ensures.ite (fun _ => ?_) fun _ => ensures_fail
    · exact Ensures.after hup _ fun _ => Ensures.pure fun _ => rfl
    · exact Ensures.after hup _ fun _ => Ensures.pure fun _ => rfl

/-- The line of an item is that of its first token, which is looked at before all else. -/
lemma ensures_itemIn_startsAmong (f : Forms) : (itemIn f).Ensures (OfItem StartsAmong) := by
  refine Ensures.map (Q := fun ts p => OfItem StartsAmong ts p.1) (Ensures.adapt
    (Q := fun ts p => OfItem StartsAmong ts p.1) ?_ fun _ _ _ h => h) fun _ _ h => h
  intro t p t' h
  obtain ⟨line, t₁, hline, hrest⟩ := run_bind_eq_some.mp h
  rw [run_nextLine] at hline
  cases hline
  let P (ts : List Tok) (d : Declaration) : Prop :=
    d.lines.first = firstLine t.ahead ∧ EndsAmong ts d.ending?
  have hP : Upward P := fun _ _ _ hts h => ⟨h.1, h.2.of_suffix hts⟩
  have hup := upward_ofItem hP fun p : Item × Bool => p.1
  intro d hd
  obtain ⟨hfirst, hending⟩ : P t.ahead d := by
    refine Ensures.after hup _ (fun _ => Ensures.after hup _ fun q => ?_) hrest d hd
    exact ensures_itemRest hP fun _ _ _ h =>
      ⟨ensures_declarationRest_first _ _ _ _ h, ensures_declarationRest _ _ _ _ h⟩
  exact ⟨t.ahead, List.suffix_rfl, hfirst, hending⟩

end Reader

/-- Nothing ends before the line on which some tokens start.

**Proof sketch.** The token that the declaration ends with is one of its tokens, so it starts on no
earlier line than the first one does; and it does not end before it starts. -/
lemma first_le_of_startsAmong {toks : List Tok}
    (horder : InOrder 1 (toks.map fun t => t.lines.first)) (hends : ∀ t ∈ toks, t.Ends)
    {d : Declaration} (hd : StartsAmong toks d) {e : Char × Nat} (he : e ∈ d.ending?) :
    1 ≤ d.lines.first ∧ d.lines.first ≤ e.2 := by
  obtain ⟨ts, hts, hfirst, hending⟩ := hd
  obtain ⟨t, ht, htoken⟩ := hending e he
  have hlast : t.lines.first ≤ e.2 := by
    cases t with
    | group d items lines =>
      have hgroup := hends _ (hts.subset ht)
      cases d <;> cases htoken
      exact hgroup
    | punct c joint lines =>
      obtain ⟨-, rfl⟩ := Tok.of_ending?_punct htoken
      exact Nat.le_refl _
    | ident | literal => cases htoken
  have hsorted := horder.sublist (hts.sublist.map _)
  cases ts with
  | nil => cases ht
  | cons head rest =>
    obtain ⟨hone, hrest⟩ := List.pairwise_cons.mp hsorted
    have hhead : head.lines.first ≤ t.lines.first := by
      rcases List.mem_cons.mp ht with rfl | ht
      · exact Nat.le_refl _
      · exact (List.pairwise_cons.mp hrest).1 _ (List.mem_map_of_mem ht)
    rw [hfirst]
    exact ⟨hone _ List.mem_cons_self, hhead.trans hlast⟩

/-- **No declaration of a file ends before it starts.** It starts on the first line or further
down. -/
theorem first_le_ending {text : String} {file : SourceFile} (h : readSource? text = some file)
    {d : Declaration} (hd : Item.declaration d ∈ file) {e : Char × Nat} (he : e ∈ d.ending?) :
    1 ≤ d.lines.first ∧ d.lines.first ≤ e.2 := by
  obtain ⟨toks, htoks, hfile⟩ := items_of_readSource? Reader.upward_startsAmong
    (fun _ => Reader.ensures_itemIn_startsAmong _) h
  obtain ⟨horder, hends⟩ := inOrder_of_readToks htoks
  exact first_le_of_startsAmong horder hends (hfile _ hd d rfl) he

end Beans.Syntax
