import Mathlib.Data.List.TakeWhile
import Mathlib.Tactic.Common
import Beans.Proofs.Syntax.Declarations
import Beans.Proofs.Syntax.Stands
import Beans.Syntax.Grammar.Items

/-!
# Where structs end

The declaration of a struct ends with the brace that closes its fields, or with a semicolon. The
line that a reader gives for the end is that of a token among those that it was given, whatever
attributes, types and expressions stand before it. As tokens stand where they say, the end of every
struct of a file is on the line that is given for it.

## Main definitions

* `Beans.Syntax.Declaration.ending?` — the character that a struct ends with, and its line.
* `Beans.Syntax.EndsAmong` — an ending is that of some token.

## Main results

* `Beans.Syntax.stands_of_readSource?` — the items of a file end where they say.
-/

set_option autoImplicit false

namespace Beans.Syntax

/-! ## Endings -/

/-- The character that a struct with some fields ends with, and its line; the number is the last
line of the struct. -/
def Fields.ending (fields : Fields) (last : Nat) : Char × Nat :=
  match fields with
  | .named _ closing => ('}', closing)
  | .unnamed _ | .unit => (';', last)

/-- The character that a declaration of a struct ends with, and its line. -/
def Declaration.ending? (d : Declaration) : Option (Char × Nat) :=
  match d.data with
  | .struct fields => some (fields.ending d.lines.last)
  | .enum | .union => none

/-- The same for an item. -/
def Item.ending? : Item → Option (Char × Nat)
  | .declaration d => d.ending?
  | .use .. | .impl .. | .other => none

/-- An item that ends somewhere is a declaration. -/
lemma ending?_of_item {item : Item} {e : Char × Nat} (h : e ∈ item.ending?) :
    ∃ d ∈ item.declaration?, e ∈ d.ending? := by
  cases item with
  | declaration d => exact ⟨d, rfl, h⟩
  | use | impl | other => cases h

/-- What is given as an ending is that of one of some tokens. -/
def EndsAmong (ts : List Tok) (ending : Option (Char × Nat)) : Prop :=
  ∀ e ∈ ending, ∃ t ∈ ts, t.ending? = some e

lemma EndsAmong.of_head {t : Tok} {rest : List Tok} : EndsAmong (t :: rest) t.ending? :=
  fun _ he => ⟨t, List.mem_cons_self, he⟩

lemma EndsAmong.none (ts : List Tok) : EndsAmong ts none := nofun

lemma EndsAmong.of_suffix {ts ts' : List Tok} {ending : Option (Char × Nat)} (hts : ts <:+ ts')
    (h : EndsAmong ts ending) : EndsAmong ts' ending := by
  intro e he
  obtain ⟨t, ht, hending⟩ := h e he
  exact ⟨t, hts.subset ht, hending⟩

namespace Reader

variable {α : Type} {P : List Tok → α → Prop}

lemma upward_endsAmong (ending : α → Option (Char × Nat)) :
    Upward fun ts a => EndsAmong ts (ending a) :=
  fun _ _ _ hts h => h.of_suffix hts

lemma run_nextLine (t : Tape) :
    nextLine.run t = some ((t.ahead.head?.map fun t => t.lines.first).getD 0, t) := by
  obtain ⟨ahead, written⟩ := t
  cases ahead <;> rfl

lemma eq_of_atSemicolon {ts : List Tok} (h : atOp ";" ts = true) :
    ∃ joint lines rest, ts = .punct ';' joint lines :: rest := by
  cases ts with
  | nil => cases h
  | cons t rest =>
    cases t with
    | punct c joint lines =>
      have hc : (';' == c && ';' != '\'') = true := h
      obtain rfl : ';' = c := by simpa using hc
      exact ⟨joint, lines, rest, rfl⟩
    | ident | literal | group => cases h

/-- After a semicolon, with the line that it stands on. -/
lemma ensures_semicolon {f : Nat → Reader α}
    (hf : ∀ ts line, EndsAmong ts (some (';', line)) → (f line).Ensures fun _ a => P ts a) :
    (nextLine >>= fun line => op ";" >>= fun _ => f line).Ensures P := by
  intro t a t' h
  obtain ⟨line, _, hline, hafter⟩ := run_bind_eq_some.mp h
  obtain ⟨_, t₂, hop, hlast⟩ := run_bind_eq_some.mp hafter
  rw [run_nextLine] at hline
  cases hline
  obtain ⟨joint, lines, rest, hahead⟩ := eq_of_atSemicolon (ensures_op _ hop)
  refine hf _ _ ?_ hlast
  rw [hahead]
  exact EndsAmong.of_head

/-- The fields in braces end where the braces do. -/
lemma ensures_fieldsIn (field : Reader Field) :
    (fieldsIn .brace field).Ensures fun ts p => EndsAmong ts (some ('}', p.2)) := by
  intro t p t' h
  obtain ⟨ts, _, hts, hfields⟩ := run_bind_eq_some.mp h
  cases hts
  obtain ⟨list, t'', hgroup, hpure⟩ := run_bind_eq_some.mp hfields
  obtain ⟨items, lines, rest, hahead⟩ := ensures_group _ _ hgroup
  cases hpure
  dsimp only at hahead ⊢
  rw [hahead]
  exact EndsAmong.of_head

/-- The fields of a struct, with the line that it ends on. -/
lemma ensures_structRest (f : Forms) : (structRest f).Ensures fun ts r =>
    EndsAmong ts (r.1.ending r.2.1) := by
  have hup := upward_endsAmong fun r : Fields × Nat × Option (List Tok) => r.1.ending r.2.1
  refine Ensures.after hup _ fun before => Ensures.after hup _ fun ts => ?_
  refine Ensures.ite (fun _ => ?_) fun _ => Ensures.ite (fun _ => ?_) fun _ => ?_
  · refine Ensures.after hup _ fun ⟨list, _⟩ => Ensures.after hup _ fun after => ?_
    exact ensures_semicolon fun ts line h => Ensures.pure fun _ => h
  · exact Ensures.bind (ensures_fieldsIn f.field) fun ts ⟨list, closing⟩ h =>
      Ensures.pure fun _ => h
  · exact ensures_semicolon fun ts line h => Ensures.pure fun _ => h

/-- A struct ends where its fields do; other declarations do not matter. -/
lemma ensures_declarationRest (f : Forms) (attributes : List Attribute) (vis : Visibility)
    (line : Nat) : (declarationRest f attributes vis line).Ensures fun ts d =>
      EndsAmong ts d.ending? := by
  have hup := upward_endsAmong Declaration.ending?
  refine Ensures.after hup _ fun kind => Ensures.after hup _ fun nameLine =>
    Ensures.after hup _ fun name => Ensures.after hup _ fun generics => ?_
  refine Ensures.ite (fun _ => ?_) fun _ => ?_
  · exact Ensures.bind (ensures_structRest f) fun ts ⟨fields, last, conditions⟩ h =>
      Ensures.pure fun _ => h
  · refine Ensures.after hup _ fun conditions => Ensures.after hup _ fun ts => ?_
    refine Ensures.ite (fun _ => ?_) fun _ => Ensures.ite (fun _ => ?_) fun _ => ensures_fail
    · exact Ensures.after hup _ fun _ => Ensures.pure fun ts => EndsAmong.none ts
    · exact Ensures.after hup _ fun _ => Ensures.pure fun ts => EndsAmong.none ts

end Reader

/-! ## Source files -/

/-- The rest of a line goes up to its line feed. -/
lemma resumes_dropWhile (cs : List Char) : Resumes cs 1 (cs.dropWhile (· != '\n')) := by
  refine ⟨cs.takeWhile (· != '\n'), List.takeWhile_append_dropWhile, ?_⟩
  have hnone : '\n' ∉ cs.takeWhile (· != '\n') := fun hmem => by
    simpa using List.mem_takeWhile_imp hmem
  rw [List.count_eq_zero.mpr hnone]

/-- The preamble of a text is on its first line. -/
lemma resumes_withoutPreamble (cs : List Char) : Resumes cs 1 (withoutPreamble cs) := by
  have hmark : Resumes cs 1 (if cs.head? = some (Char.ofNat 0xFEFF) then cs.drop 1 else cs) := by
    split
    · rename_i hhead
      obtain ⟨rest, rfl⟩ := List.head?_eq_some_iff.mp hhead
      exact (Resumes.refl _).tail (by decide)
    · exact Resumes.refl cs
  unfold withoutPreamble
  extract_lets cs'
  change Resumes cs 1 cs' at hmark
  clear_value cs'
  split
  · rename_i rest
    split
    · exact hmark
    · exact ((hmark.tail (by decide)).tail (by decide)).of_first (resumes_dropWhile rest)
  · exact hmark

/-- **Items end where they say.** The character that ends a struct stands in the text, on the line
that is given for it. -/
theorem stands_of_readSource? {text : String} {file : SourceFile}
    (h : readSource? text = some file) :
    ∀ item ∈ file, Stands text.toList item.ending? := by
  obtain ⟨toks, htoks, hfile⟩ := declarations_of_readSource?
    (Reader.upward_endsAmong Declaration.ending?) (fun _ => Reader.ensures_declarationRest _) h
  intro item hitem e he
  obtain ⟨d, hd, hdeclared⟩ := ending?_of_item he
  obtain ⟨t, ht, hending⟩ := hfile item hitem d hd e hdeclared
  obtain ⟨after, hafter⟩ := stands_of_readToks htoks t ht e hending
  rw [String.toList_ofList] at hafter
  exact ⟨after, (resumes_withoutPreamble text.toList).of_first hafter⟩

end Beans.Syntax
