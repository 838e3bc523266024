import Mathlib.Data.List.Basic
import Mathlib.Tactic.Common
import Beans.Proofs.Types.Spelling

/-!
# The grammar of types

A type is written as a name, perhaps with arguments between angle brackets, and with a pair of
brackets for each array around it. Blanks may stand before a type, on both sides of angle brackets
and commas, and before each pair of brackets. The reader takes the texts of this grammar and no
others, but for blanks at the end of a text, which it drops. Its bound on the depth of nesting has
no part in that: with any greater bound it does the same, also with texts that it refuses.

## Main definitions

* `Beans.ResolvedType.Derives` — the characters of a type, by the grammar, and the type they denote.
* `Beans.ResolvedType.Brackets` — the characters of some pairs of brackets.
* `Beans.ResolvedType.listText` — the characters between angle brackets.

## Main results

* `Beans.ResolvedType.readType_of_derives` — what the grammar derives is read.
* `Beans.ResolvedType.derives_of_readType` — what is read is derived by the grammar.
* `Beans.ResolvedType.readType_of_le` — the bound on the depth does not matter.
* `Beans.ResolvedType.parse_iff_derives` — the texts that are read are those of the grammar.
-/

set_option autoImplicit false

namespace Beans

open Text

/-! ## Blanks -/

/-- Blank characters only. -/
def Blanks (cs : List Char) : Prop := ∀ d ∈ cs, isBlank d = true

section

variable {ws cs : List Char} {c : Char}

lemma blanks_nil : Blanks [] := nofun

lemma Blanks.dropBlank_append (h : Blanks ws) (cs : List Char) :
    dropBlank (ws ++ cs) = dropBlank cs := List.dropWhile_append_of_pos h

lemma Blanks.dropBlank_eq_nil (h : Blanks ws) : dropBlank ws = [] :=
  List.dropWhile_eq_nil_iff.mpr h

/-- A text is blanks and what is left without them. -/
lemma exists_blanks_append (cs : List Char) : ∃ ws, Blanks ws ∧ cs = ws ++ dropBlank cs :=
  ⟨cs.takeWhile isBlank, fun _ hd => List.mem_takeWhile_imp hd,
    List.takeWhile_append_dropWhile.symm⟩

lemma dropBlank_cons (h : isBlank c = false) (cs : List Char) : dropBlank (c :: cs) = c :: cs := by
  rw [dropBlank, List.dropWhile_cons, h]
  rfl

lemma length_lt_of_dropBlank (h : dropBlank cs = c :: ws) : ws.length < cs.length := by
  have hlength : (dropBlank cs).length ≤ cs.length := (List.dropWhile_suffix _).length_le
  rw [h, List.length_cons] at hlength
  exact hlength

/-- No blank character continues a name. -/
lemma not_continuesName_of_isBlank (h : isBlank c = true) : continuesName c = false ∧ c ≠ ':' := by
  have hletter : isAlphabetic c = false :=
    eq_false_of_inRanges Char.isAlpha (by decide +kernel) (by decide +kernel)
      (inRanges_blankRanges h)
  have hdigit : isNumeric c = false :=
    eq_false_of_inRanges Char.isDigit (by decide +kernel) (by decide +kernel)
      (inRanges_blankRanges h)
  refine ⟨?_, ?_⟩
  · have hscore : c ≠ '_' := by
      rintro rfl
      cases h
    simp [continuesName, isAlphanumeric, hletter, hdigit, hscore]
  · rintro rfl
    cases h

/-- What begins with a character that ends names, behind blanks, ends a name. -/
lemma Blanks.endsName (h : Blanks ws) (hcs : EndsName cs) : EndsName (ws ++ cs) := by
  cases ws with
  | nil => exact hcs
  | cons d ws =>
    rintro e ⟨⟩
    exact not_continuesName_of_isBlank (h d List.mem_cons_self)

end

namespace ResolvedType

/-! ## The grammar -/

/-- Pairs of brackets, with blanks before each of them. -/
inductive Brackets : Nat → List Char → Prop
  | none : Brackets 0 []
  | more {n : Nat} {before rest : List Char} (hbefore : Blanks before) (hrest : Brackets n rest) :
      Brackets (n + 1) (before ++ '[' :: ']' :: rest)

/-- An argument in the list of a type. -/
structure ListedType where
  /-- The characters of the argument, with the blanks before it. -/
  text : List Char
  /-- The blanks between it and the comma or angle bracket after it. -/
  after : List Char
  /-- The type that it denotes. -/
  type : ResolvedType

/-- The characters of some arguments with commas between them. -/
def listText : List ListedType → List Char
  | [] => []
  | [a] => a.text ++ a.after
  | a :: as => a.text ++ a.after ++ ',' :: listText as

/-- The array of a type, a number of times. -/
def arrays (n : Nat) (t : ResolvedType) : ResolvedType := Nat.repeat toArray n t

lemma arrays_toArray (n : Nat) (t : ResolvedType) : arrays n t.toArray = arrays (n + 1) t := by
  induction n with
  | zero => rfl
  | succ n ih => exact congrArg toArray ih

/-- The characters of a type with the type that they denote: a name of the catalog, the arguments if
there are any, one for each parameter of the type of that name, and the pairs of brackets. Blanks
stand before the type, on both sides of angle brackets and commas, and before pairs of brackets. -/
inductive Derives (c : Catalog) : List Char → ResolvedType → Prop
  | bare {before name suffixes : List Char} {raw : TypeInfo} {n : Nat} (hbefore : Blanks before)
      (hname : IsName name) (hraw : c.find? (String.ofList name) = some raw)
      (hsuffixes : Brackets n suffixes) :
      Derives c (before ++ (name ++ suffixes)) (arrays n (ofRaw raw))
  | applied {before name between after suffixes : List Char} {args : List ListedType}
      {raw : TypeInfo} {n : Nat} (hbefore : Blanks before) (hname : IsName name)
      (hraw : c.find? (String.ofList name) = some raw) (hbetween : Blanks between) (hne : args ≠ [])
      (hargs : ∀ a ∈ args, Derives c a.text a.type) (hblanks : ∀ a ∈ args, Blanks a.after)
      (hnumber : args.length = raw.params.length) (hafter : Blanks after)
      (hsuffixes : Brackets n suffixes) :
      Derives c
        (before ++ (name ++ (between ++ '<' :: (listText args ++ '>' :: (after ++ suffixes)))))
        (arrays n (mk raw (args.map ListedType.type)))

/-! ## What the grammar derives is read -/

variable {c : Catalog} {cs rest : List Char} {t : ResolvedType}

lemma readArrays_blanks {ws : List Char} (h : Blanks ws) (t : ResolvedType) (cs : List Char) :
    readArrays t (ws ++ cs) = readArrays t cs := by
  induction ws with
  | nil => rfl
  | cons d ws ih =>
    obtain ⟨hd, hws⟩ := List.forall_mem_cons.mp h
    have hbracket : d ≠ '[' := by
      rintro rfl
      cases hd
    rw [List.cons_append, readArrays.eq_def]
    simp only [hbracket, hd, if_false, if_true]
    exact ih hws

/-- Each pair of brackets makes an array. -/
lemma readArrays_brackets {n : Nat} {suffixes : List Char} (h : Brackets n suffixes)
    (t : ResolvedType) (tail : List Char) :
    readArrays t (suffixes ++ tail) = readArrays (arrays n t) tail := by
  induction h generalizing t with
  | none => rfl
  | more hbefore _ ih =>
    rw [List.append_assoc, readArrays_blanks hbefore, List.cons_append, List.cons_append, readArrays,
      if_pos rfl, ih, arrays_toArray]

/-- What may follow a type behind blanks: a comma, an angle bracket, or nothing. -/
def Ends (tail : List Char) : Prop := Closes (dropBlank tail)

lemma ends_append {ws : List Char} (h : Blanks ws) {tail : List Char} (htail : Closes tail) :
    Ends (ws ++ tail) := by
  rw [Ends, h.dropBlank_append]
  cases tail with
  | nil => exact htail
  | cons d tail =>
    have hd : isBlank d = false := by
      have hmem := htail d rfl
      simp only [List.mem_cons, List.not_mem_nil, or_false] at hmem
      rcases hmem with rfl | rfl <;> decide
    rwa [dropBlank_cons hd]

lemma Ends.endsName {tail : List Char} (h : Ends tail) : EndsName tail := by
  obtain ⟨ws, hws, htail⟩ := exists_blanks_append tail
  rw [htail]
  refine hws.endsName fun d hd => ?_
  have hmem : d ∈ ['<', '>', '[', ']', ','] := by
    have := h d hd
    simp only [List.mem_cons] at this ⊢
    tauto
  exact ⟨(delimiters d hmem).1, (delimiters d hmem).2.1⟩

/-- Behind a type, the blanks are dropped. -/
lemma readArrays_of_ends (t : ResolvedType) {tail : List Char} (h : Ends tail) :
    readArrays t tail = .ok (t, dropBlank tail) := by
  obtain ⟨ws, hws, htail⟩ := exists_blanks_append tail
  have hread := readArrays_of_closes t h
  rwa [← readArrays_blanks hws, ← htail] at hread

lemma Brackets.endsName {n : Nat} {suffixes tail : List Char} (h : Brackets n suffixes)
    (htail : EndsName tail) : EndsName (suffixes ++ tail) := by
  cases h with
  | none => exact htail
  | more hbefore =>
    rw [List.append_assoc]
    refine hbefore.endsName ?_
    rintro d ⟨⟩
    exact ⟨(delimiters '[' (by decide)).1, by decide⟩

/-- The bracket of arguments does not stand behind a name without. -/
lemma Brackets.dropBlank_ne {n : Nat} {suffixes tail cs : List Char} (h : Brackets n suffixes)
    (htail : Ends tail) : dropBlank (suffixes ++ tail) ≠ '<' :: cs := by
  cases h with
  | none =>
    intro heq
    have hangle := htail '<' (by rw [List.nil_append] at heq; rw [heq]; rfl)
    simp at hangle
  | more hbefore =>
    rw [List.append_assoc, hbefore.dropBlank_append, List.cons_append, dropBlank_cons (by decide)]
    simp

/-- Arguments are read if each of them is. -/
lemma readArguments_listText {args : List ListedType} (hne : args ≠ [])
    (hargs : ∀ a ∈ args, ∀ depth tail, 2 * a.text.length ≤ depth → Ends tail →
      readType c depth (a.text ++ tail) = .ok (a.type, dropBlank tail))
    (hblanks : ∀ a ∈ args, Blanks a.after) (tail : List Char) {depth : Nat}
    (hdepth : 2 * (listText args).length + 1 ≤ depth) :
    readArguments c depth (listText args ++ '>' :: tail) =
      .ok (args.map ListedType.type, tail) := by
  induction args generalizing depth with
  | nil => exact absurd rfl hne
  | cons a args ih =>
    obtain ⟨ha, hargs⟩ := List.forall_mem_cons.mp hargs
    obtain ⟨hafter, hblanks⟩ := List.forall_mem_cons.mp hblanks
    obtain ⟨depth, rfl⟩ : ∃ d, depth = d + 1 := ⟨depth - 1, by omega⟩
    -- the argument is read up to the comma or the angle bracket
    have hread {d : Char} (hd : d = ',' ∨ d = '>') {rest : List Char}
        (hlength : 2 * a.text.length ≤ depth) :
        readType c depth (a.text ++ (a.after ++ d :: rest)) = .ok (a.type, d :: rest) := by
      have hcloses : Closes (d :: rest) := by
        rintro e ⟨⟩
        simpa using hd
      have hblank : isBlank d = false := by rcases hd with rfl | rfl <;> decide
      rw [ha depth _ hlength (ends_append hafter hcloses), hafter.dropBlank_append,
        dropBlank_cons hblank]
    rw [readArguments]
    cases args with
    | nil =>
      rw [listText, List.length_append] at hdepth
      rw [listText, List.append_assoc, hread (.inr rfl) (by omega), ok_bind]
      rfl
    | cons b args =>
      have htext : listText (a :: b :: args) =
          a.text ++ a.after ++ ',' :: listText (b :: args) := rfl
      rw [htext, List.length_append, List.length_append, List.length_cons] at hdepth
      have hrest := ih (List.cons_ne_nil b args) hargs hblanks
        (show 2 * (listText (b :: args)).length + 1 ≤ depth by omega)
      rw [htext, List.append_assoc, List.append_assoc, List.cons_append,
        hread (.inl rfl) (by omega), ok_bind]
      change (readArguments c depth (listText (b :: args) ++ '>' :: tail) >>= _) = _
      rw [hrest]
      rfl

/-- **What the grammar derives is read**, up to what may follow a type.

**Proof sketch.** Induction on the derivation, for every depth that is enough and every text behind.
Each part is read up to where the next one starts, and what ends a type can neither continue a name
nor start brackets. -/
theorem readType_of_derives (h : Derives c cs t) : ∀ depth tail, 2 * cs.length ≤ depth → Ends tail →
    readType c depth (cs ++ tail) = .ok (t, dropBlank tail) := by
  induction h with
  | @bare before name suffixes raw n hbefore hname hraw hsuffixes =>
    intro depth tail hdepth htail
    obtain ⟨head, others, hchars, -⟩ := hname.exists_head
    obtain ⟨depth, rfl⟩ : ∃ d, depth = d + 1 := by
      refine ⟨depth - 1, ?_⟩
      simp only [hchars, List.length_append, List.length_cons] at hdepth
      omega
    have hread := readName_append hname (hsuffixes.endsName htail.endsName)
    obtain ⟨ws, hws, hdrop⟩ := exists_blanks_append (suffixes ++ tail)
    rw [readType, List.append_assoc, hbefore.dropBlank_append, List.append_assoc,
      dropBlank_of_isName hname, hread, ok_bind]
    simp only [hraw]
    split
    case h_1 rest heq => exact absurd heq (hsuffixes.dropBlank_ne htail)
    case h_2 =>
      rw [readArraysOf_eq (t := ofRaw raw) rfl, ← readArrays_blanks hws, ← hdrop,
        readArrays_brackets hsuffixes, readArrays_of_ends _ htail]
  | @applied before name between after suffixes args raw n hbefore hname hraw hbetween hne _ hblanks
      hnumber hafter hsuffixes ih =>
    intro depth tail hdepth htail
    obtain ⟨depth, rfl⟩ : ∃ d, depth = d + 1 := by
      refine ⟨depth - 1, ?_⟩
      simp only [List.length_append, List.length_cons] at hdepth
      omega
    have hangle : EndsName ('<' :: (listText args ++ '>' :: (after ++ suffixes)) ++ tail) := by
      rintro d ⟨⟩
      exact ⟨(delimiters '<' (by decide)).1, by decide⟩
    have hread := readName_append hname (hbetween.endsName hangle)
    have henough : 2 * (listText args).length + 1 ≤ depth := by
      simp only [List.length_append, List.length_cons] at hdepth
      omega
    have hlist := readArguments_listText hne ih hblanks (after ++ (suffixes ++ tail)) henough
    have hof : of? raw (args.map ListedType.type) = .ok (mk raw (args.map ListedType.type)) := by
      simp [of?, hnumber]
    have hdrop : dropBlank (between ++
          ('<' :: (listText args ++ '>' :: (after ++ suffixes)) ++ tail)) =
        '<' :: (listText args ++ '>' :: (after ++ (suffixes ++ tail))) := by
      rw [hbetween.dropBlank_append, List.cons_append, dropBlank_cons (by decide)]
      simp
    rw [readType, List.append_assoc, hbefore.dropBlank_append, List.append_assoc,
      dropBlank_of_isName hname, List.append_assoc, hread, ok_bind]
    simp only [hraw, hdrop, hlist, ok_bind]
    rw [readArraysOf_eq hof, readArrays_blanks hafter, readArrays_brackets hsuffixes,
      readArrays_of_ends _ htail]

/-! ## What is read is derived by the grammar -/

/-- A name is taken from the front. -/
lemma append_of_readName {name : String} (h : readName cs = .ok (name, rest)) :
    cs = name.toList ++ rest := by
  have hrest {cs name rest : List Char} (h : readNameRest cs = .ok (name, rest)) :
      cs = name ++ rest := by
    fun_induction readNameRest cs generalizing name with
    | case1 c cs _ ih =>
      obtain ⟨⟨taken, after⟩, hread, hresult⟩ := bind_eq_ok_iff.mp h
      obtain ⟨rfl, rfl⟩ := Prod.mk.inj (Except.ok.inj hresult)
      rw [ih hread]
      rfl
    | case2 | case3 => cases h
    | case4 c cs _ _ _ ih =>
      obtain ⟨⟨taken, after⟩, hread, hresult⟩ := bind_eq_ok_iff.mp h
      obtain ⟨rfl, rfl⟩ := Prod.mk.inj (Except.ok.inj hresult)
      rw [ih hread]
      rfl
    | case5 | case6 =>
      obtain ⟨rfl, rfl⟩ := Prod.mk.inj (Except.ok.inj h)
      rfl
  cases cs with
  | nil => cases h
  | cons c cs =>
    rw [readName] at h
    split at h
    · obtain ⟨⟨taken, after⟩, hread, hresult⟩ := bind_eq_ok_iff.mp h
      obtain ⟨rfl, rfl⟩ := Prod.mk.inj (Except.ok.inj hresult)
      rw [String.toList_ofList, List.cons_append, hrest hread]
    · cases h

/-- What is taken for arrays are pairs of brackets, and blanks behind them. -/
lemma brackets_of_readArrays {u : ResolvedType} (h : readArrays t cs = .ok (u, rest)) :
    ∃ n suffixes after, cs = suffixes ++ (after ++ rest) ∧ Brackets n suffixes ∧ Blanks after ∧
      u = arrays n t := by
  fun_induction readArrays t cs with
  | case1 t =>
    obtain ⟨rfl, rfl⟩ := Prod.mk.inj (Except.ok.inj h)
    exact ⟨0, [], [], rfl, .none, blanks_nil, rfl⟩
  | case2 t cs ih =>
    obtain ⟨n, suffixes, after, rfl, hsuffixes, hafter, rfl⟩ := ih h
    exact ⟨n + 1, [] ++ '[' :: ']' :: suffixes, after, rfl, .more blanks_nil hsuffixes, hafter,
      arrays_toArray n t⟩
  | case3 => cases h
  | case4 t d cs _ hd ih =>
    obtain ⟨n, suffixes, after, rfl, hsuffixes, hafter, rfl⟩ := ih h
    cases hsuffixes with
    | none => exact ⟨0, [], d :: after, rfl, .none, List.forall_mem_cons.mpr ⟨hd, hafter⟩, rfl⟩
    | @more n before rest' hbefore hrest =>
      exact ⟨n + 1, d :: before ++ '[' :: ']' :: rest', after, rfl,
        .more (List.forall_mem_cons.mpr ⟨hd, hbefore⟩) hrest, hafter, rfl⟩
  | case5 t d cs =>
    obtain ⟨rfl, rfl⟩ := Prod.mk.inj (Except.ok.inj h)
    exact ⟨0, [], [], rfl, .none, blanks_nil, rfl⟩

/-- The number of arguments is right, and what follows them is taken for arrays. -/
lemma brackets_of_readArraysOf {raw : TypeInfo} {args : List ResolvedType}
    (h : readArraysOf raw args cs = .ok (t, rest)) :
    (args = [] ∨ args.length = raw.params.length) ∧
      ∃ n suffixes after, cs = suffixes ++ (after ++ rest) ∧ Brackets n suffixes ∧ Blanks after ∧
        t = arrays n (mk raw args) := by
  rw [readArraysOf] at h
  split at h
  · cases h
  · next u hu =>
    rw [of?] at hu
    split at hu
    · next hcheck =>
      obtain rfl := Except.ok.inj hu
      exact ⟨by simpa using hcheck, brackets_of_readArrays h⟩
    · cases hu

/-- **What is read is derived by the grammar**, by induction on the depth, for types and for lists of
arguments. Blanks that stand behind a type are taken with it. -/
theorem derives_of_readType (depth : Nat) :
    (∀ cs t rest, readType c depth cs = .ok (t, rest) →
      ∃ text after, cs = text ++ (after ++ rest) ∧ Blanks after ∧ Derives c text t) ∧
    ∀ cs ts rest, readArguments c depth cs = .ok (ts, rest) →
      ∃ args : List ListedType, cs = listText args ++ '>' :: rest ∧ args ≠ [] ∧
        ts = args.map ListedType.type ∧ (∀ a ∈ args, Derives c a.text a.type) ∧
        ∀ a ∈ args, Blanks a.after := by
  induction depth with
  | zero =>
    constructor
    · intro cs t rest h
      cases h
    · intro cs ts rest h
      cases h
  | succ depth ih =>
    obtain ⟨iht, iha⟩ := ih
    constructor
    · intro cs t rest h
      rw [readType] at h
      obtain ⟨⟨name, behind⟩, hread, h⟩ := bind_eq_ok_iff.mp h
      obtain ⟨before, hbefore, hcs⟩ := exists_blanks_append cs
      obtain ⟨between, hbetween, hbehind⟩ := exists_blanks_append behind
      rw [append_of_readName hread] at hcs
      have hname := isName_of_readName hread
      dsimp only at h
      split at h
      · cases h
      · next raw hfind =>
        have hraw : c.find? (String.ofList name.toList) = some raw := by rwa [String.ofList_toList]
        split at h
        · next inner hinner =>
          obtain ⟨⟨ts, behind'⟩, hlist, h⟩ := bind_eq_ok_iff.mp h
          obtain ⟨args, rfl, hne, rfl, hargs, hblanks⟩ := iha _ _ _ hlist
          obtain ⟨hnumber, n, suffixes, after, rfl, hsuffixes, hafter, rfl⟩ :=
            brackets_of_readArraysOf h
          have hnumber : args.length = raw.params.length := by simpa [hne] using hnumber
          refine ⟨_, after, ?_, hafter,
            .applied hbefore hname hraw hbetween hne hargs hblanks hnumber blanks_nil hsuffixes⟩
          rw [hcs, hbehind, hinner]
          simp
        · -- the blanks behind the name belong to the brackets, or stand behind the type
          rw [readArraysOf_eq (t := ofRaw raw) rfl, ← readArrays_blanks hbetween, ← hbehind] at h
          obtain ⟨n, suffixes, after, rfl, hsuffixes, hafter, rfl⟩ := brackets_of_readArrays h
          refine ⟨_, after, ?_, hafter, .bare hbefore hname hraw hsuffixes⟩
          rw [hcs]
          simp
    · intro cs ts rest h
      rw [readArguments] at h
      obtain ⟨⟨t, behind⟩, hread, h⟩ := bind_eq_ok_iff.mp h
      obtain ⟨text, after, hcs, hafter, ht⟩ := iht _ _ _ hread
      obtain ⟨ws, hws, hbehind⟩ := exists_blanks_append behind
      have hblanks : Blanks (after ++ ws) := List.forall_mem_append.mpr ⟨hafter, hws⟩
      dsimp only at h
      split at h
      · next inner hinner =>
        obtain ⟨⟨others, behind'⟩, hlist, hresult⟩ := bind_eq_ok_iff.mp h
        obtain ⟨rfl, rfl⟩ := Prod.mk.inj (Except.ok.inj hresult)
        obtain ⟨args, rfl, hne, rfl, hargs, hothers⟩ := iha _ _ _ hlist
        obtain ⟨b, bs, rfl⟩ := List.exists_cons_of_ne_nil hne
        refine ⟨⟨text, after ++ ws, t⟩ :: b :: bs, ?_, List.cons_ne_nil _ _, rfl,
          List.forall_mem_cons.mpr ⟨ht, hargs⟩, List.forall_mem_cons.mpr ⟨hblanks, hothers⟩⟩
        have htext : listText (⟨text, after ++ ws, t⟩ :: b :: bs) =
            text ++ (after ++ ws) ++ ',' :: listText (b :: bs) := rfl
        rw [htext, hcs, hbehind, hinner]
        simp
      · next inner hinner =>
        obtain ⟨rfl, rfl⟩ := Prod.mk.inj (Except.ok.inj h)
        refine ⟨[⟨text, after ++ ws, t⟩], ?_, List.cons_ne_nil _ _, rfl,
          List.forall_mem_singleton.mpr ht, List.forall_mem_singleton.mpr hblanks⟩
        rw [hcs, hbehind, hinner, listText]
        simp
      · cases h

/-! ## The bound on the depth -/

/-- One more level of depth changes nothing if there are two levels for each character, for what is
read as for what is refused. A type begins with a name, so what is read at the next level is
shorter. -/
lemma readType_succ (depth : Nat) :
    (∀ cs, 2 * cs.length + 1 ≤ depth → readType c (depth + 1) cs = readType c depth cs) ∧
      ∀ cs, 2 * cs.length + 2 ≤ depth → readArguments c (depth + 1) cs = readArguments c depth cs := by
  induction depth with
  | zero => exact ⟨fun _ h => absurd h (by omega), fun _ h => absurd h (by omega)⟩
  | succ depth ih =>
    obtain ⟨iht, iha⟩ := ih
    constructor
    · intro cs hdepth
      rw [readType, readType.eq_def c (depth + 1)]
      dsimp only
      cases hread : readName (dropBlank cs) with
      | error e => rfl
      | ok r =>
        obtain ⟨name, behind⟩ := r
        rw [ok_bind, ok_bind]
        obtain ⟨before, -, hcs⟩ := exists_blanks_append cs
        obtain ⟨head, others, hchars, -⟩ := (isName_of_readName hread).exists_head
        rw [append_of_readName hread, hchars] at hcs
        dsimp only
        split
        · rfl
        · split
          · next inner hinner =>
            have hshorter : 2 * inner.length + 2 ≤ depth := by
              have hlength := congrArg List.length hcs
              have hinner := length_lt_of_dropBlank hinner
              simp only [List.length_append, List.length_cons] at hlength
              omega
            rw [iha inner hshorter]
          · rfl
    · intro cs hdepth
      rw [readArguments, readArguments.eq_def c (depth + 1)]
      dsimp only
      rw [iht cs (by omega)]
      cases hread : readType c depth cs with
      | error e => rfl
      | ok r =>
        obtain ⟨t, behind⟩ := r
        rw [ok_bind, ok_bind]
        obtain ⟨text, after, hcs, -⟩ := (derives_of_readType depth).1 _ _ _ hread
        dsimp only
        split
        · next inner hinner =>
          have hshorter : 2 * inner.length + 2 ≤ depth := by
            have hlength := congrArg List.length hcs
            have hinner := length_lt_of_dropBlank hinner
            simp only [List.length_append] at hlength
            omega
          rw [iha inner hshorter]
        · rfl
        · rfl

/-- **The bound on the depth does not matter** if it is great enough. -/
theorem readType_of_le {depth : Nat} (hdepth : 2 * cs.length + 1 ≤ depth) :
    readType c depth cs = readType c (2 * cs.length + 1) cs := by
  induction depth, hdepth using Nat.le_induction with
  | base => rfl
  | succ depth hdepth ih => rw [(readType_succ depth).1 cs hdepth, ih]

/-! ## Whole texts -/

/-- Blanks stand at the end of a type only behind an angle bracket. -/
lemma Derives.mem_or_not_isBlank (h : Derives c cs t) :
    '>' ∈ cs ∨ ∀ d ∈ cs.getLast?, isBlank d = false := by
  cases h with
  | applied => exact .inl (by simp)
  | @bare before name suffixes raw n _ hname _ hsuffixes =>
    have hlast {n : Nat} {suffixes : List Char} (h : Brackets n suffixes) :
        ∀ d ∈ suffixes.getLast?, isBlank d = false := by
      induction h with
      | none => nofun
      | @more n before rest hbefore _ ih =>
        cases rest with
        | nil => simp [isBlank]
        | cons e rest => simpa using ih
    refine .inr ?_
    obtain ⟨head, others, rfl, -⟩ := hname.exists_head
    cases suffixes with
    | cons e suffixes =>
      rw [← List.append_assoc, List.getLast?_append_cons]
      exact hlast hsuffixes
    | nil =>
      intro d hd
      rw [List.append_nil, List.getLast?_append_cons] at hd
      refine eq_false_of_ne_true fun hblank => ?_
      obtain ⟨hcontinues, hcolon⟩ := not_continuesName_of_isBlank hblank
      rcases hname.continues d (List.mem_of_getLast? hd) with h | h
      · rw [hcontinues] at h
        cases h
      · exact hcolon h

/-- **The texts that are read are those of the grammar**, with blanks at the end, and what is read is
the type that they denote. The depth to which the reader goes is as good as any greater one. -/
theorem parse_iff_derives (c : Catalog) (text : String) :
    (∀ t, parse c text = .ok t ↔
      ∃ cs after, text.toList = cs ++ after ∧ Blanks after ∧ Derives c cs t) ∧
    ∀ depth ≥ 2 * text.toList.length + 2,
      readType c depth text.toList = readType c (2 * text.toList.length + 2) text.toList := by
  refine ⟨fun t => ⟨fun h => ?_, ?_⟩, fun depth hdepth => ?_⟩
  · obtain ⟨rest, hread, hnil⟩ := parse_eq_ok_iff.mp h
    obtain ⟨cs, after, htext, hafter, hcs⟩ := (derives_of_readType _).1 _ _ _ hread
    obtain ⟨ws, hws, hbehind⟩ := exists_blanks_append rest
    refine ⟨cs, after ++ ws, ?_, List.forall_mem_append.mpr ⟨hafter, hws⟩, hcs⟩
    rw [htext, hbehind, hnil, List.append_nil]
  · rintro ⟨cs, after, htext, hafter, hcs⟩
    have hends : Ends (after ++ []) := ends_append hafter (fun _ h => absurd h (by simp))
    rw [List.append_nil] at hends
    have henough : 2 * cs.length ≤ 2 * text.toList.length + 2 := by
      rw [htext, List.length_append]
      omega
    have hread := readType_of_derives hcs _ after henough hends
    rw [← htext, hafter.dropBlank_eq_nil] at hread
    exact parse_eq_ok_iff.mpr ⟨[], hread, rfl⟩
  · have hsame {d : Nat} (hd : d ≥ 2 * text.toList.length + 2) :
        readType c d text.toList = readType c (2 * text.toList.length + 1) text.toList :=
      readType_of_le (by omega)
    rw [hsame hdepth, hsame (Nat.le_refl _)]

/-- A map from texts to an array of lists, with blanks in many places. -/
theorem parse_iff_derives_map :
    let text := " HashMap < String ,Vec<i32> [] > "
    let lists := mk (builtin "Vec").arrayOf [ofRaw (builtin "i32")]
    let t := mk (builtin "HashMap") [ofRaw (builtin "String"), lists]
    parse .empty text = .ok t ∧
      ∃ cs after, text.toList = cs ++ after ∧ Blanks after ∧ Derives .empty cs t := by
  intro text lists t
  have hparse : parse .empty text = .ok t := by cbv
  exact ⟨hparse, ((parse_iff_derives .empty text).1 t).mp hparse⟩

/-- Blanks at the end of a text belong to no type, but the text is read. -/
theorem parse_blank_end : parse .empty "i32[] " = .ok (ofRaw (builtin "i32")).toArray ∧
    ¬ ∃ t, Derives .empty "i32[] ".toList t := by
  refine ⟨by cbv, ?_⟩
  rintro ⟨t, h⟩
  rcases h.mem_or_not_isBlank with hmem | hlast
  · revert hmem
    decide
  · have hblank := hlast ' ' (by decide)
    cases hblank

end ResolvedType

end Beans
