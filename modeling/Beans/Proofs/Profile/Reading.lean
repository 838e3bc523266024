import Mathlib.Tactic.Common
import Beans.Profile
import Beans.Proofs.Text.Cut
import Beans.Proofs.Text.Feeds

/-!
# What is read of a profile

Whether the text of a profile is in order is a matter of its lines, one by one: each says nothing, is
the header of a known section, or is an entry below some header. The reader goes down the lines with
the section that it is in. What it answers is said here without it: a text is read if all lines are in
order, the first line that is not is reported, and the last entry of a key counts.

## Main definitions

* `Beans.Profile.Silent`, `Beans.Profile.IsHeader`, `Beans.Profile.Assigns` — what a line is.
* `Beans.Profile.Fits`, `Beans.Profile.Breaks` — a line is in order; what is wrong with it.
* `Beans.Profile.Gives`, `Beans.Profile.Latest` — the entry on a line; what the last entry of a key
  says.

## Main results

* `Beans.Profile.readProfile_answers` — what the reader makes of the lines from one on.
* `Beans.Profile.exists_ofText_iff`, `Beans.Profile.ofText_eq_error_iff` — which texts are read, and
  what is reported of the others.
* `Beans.Profile.find?_ofText_iff` — what is found in a profile that was read.
-/

set_option autoImplicit false

namespace Beans.Profile

open Text

variable {line name key value : String} {lines : List String} {n : Nat} {topic : Topic}

/-! ## Lines -/

/-- A line that says nothing is blank or a comment. -/
def Silent (line : String) : Prop :=
  line = "" ∨ line.toList.head? = some '#' ∨ line.toList.head? = some ';'

/-- A header starts with an opening bracket and ends with a closing one; an equality sign between them
makes it no entry. -/
def IsHeader (line : String) : Prop :=
  line.toList.head? = some '[' ∧ line.toList.getLast? = some ']'

/-- A line is the header of the section of a name; blanks around the name do not count. -/
def Heads (line name : String) : Prop := ∃ inner, line = "[" ++ inner ++ "]" ∧ trim inner = name

/-- A line gives a value to a key: the first equality sign is between them, and blanks around them do
not count. -/
def Assigns (line key value : String) : Prop :=
  ∃ left right, line = left ++ "=" ++ right ∧ '=' ∉ left.toList ∧ trim left = key ∧
    trim right = value

lemma isHeader_iff : IsHeader line ↔ ∃ name, Heads line name := by
  constructor
  · rintro ⟨hfirst, hlast⟩
    obtain ⟨rest, hrest⟩ := List.head?_eq_some_iff.mp hfirst
    cases rest with
    | nil => simp [hrest] at hlast
    | cons c rest =>
      rw [hrest, List.getLast?_cons_cons, List.getLast?_eq_some_iff] at hlast
      obtain ⟨inner, hinner⟩ := hlast
      refine ⟨trim (String.ofList inner), String.ofList inner, ?_, rfl⟩
      rw [← String.toList_inj]
      simpa [hinner] using hrest
  · rintro ⟨name, inner, rfl, -⟩
    have hchars : ("[" ++ inner ++ "]").toList = ('[' :: inner.toList) ++ [']'] := by simp
    rw [IsHeader, hchars, List.getLast?_concat]
    exact ⟨rfl, rfl⟩

lemma Heads.isHeader (h : Heads line name) : IsHeader line := isHeader_iff.mpr ⟨name, h⟩

lemma Heads.unique {other : String} (h : Heads line name) (h' : Heads line other) :
    name = other := by
  obtain ⟨inner, rfl, rfl⟩ := h
  obtain ⟨inner', hline, rfl⟩ := h'
  have hinner : inner = inner' := by
    rw [← String.toList_inj] at hline ⊢
    simpa using hline
  rw [hinner]

lemma IsHeader.not_silent (h : IsHeader line) : ¬ Silent line := by
  obtain ⟨hfirst, -⟩ := h
  rintro (rfl | hfirst' | hfirst')
  · simp at hfirst
  · simp [hfirst] at hfirst'
  · simp [hfirst] at hfirst'

lemma Assigns.mem (h : Assigns line key value) : '=' ∈ line.toList := by
  obtain ⟨left, right, rfl, -⟩ := h
  simp

lemma Assigns.unique {key' value' : String} (h : Assigns line key value)
    (h' : Assigns line key' value') : key = key' ∧ value = value' := by
  obtain ⟨left, right, rfl, hleft, rfl, rfl⟩ := h
  obtain ⟨left', right', hline, hleft', rfl, rfl⟩ := h'
  have hcut : splitOnce '=' (left ++ "=" ++ right).toList = some (left.toList, right.toList) :=
    splitOnce_eq_some_iff.mpr ⟨by simp, hleft⟩
  have hcut' : splitOnce '=' (left ++ "=" ++ right).toList = some (left'.toList, right'.toList) :=
    splitOnce_eq_some_iff.mpr ⟨by simp [hline], hleft'⟩
  obtain ⟨hl, hr⟩ := Prod.mk.inj (Option.some.inj (hcut.symm.trans hcut'))
  rw [String.toList_inj.mp hl, String.toList_inj.mp hr]
  exact ⟨rfl, rfl⟩

/-- What a line is, said without a look at how it is read. -/
def Says (line : String) : ProfileLine → Prop
  | .comment => Silent line
  | .header name => Heads line name
  | .entry key value => ¬ Silent line ∧ ¬ IsHeader line ∧ Assigns line key value
  | .other => ¬ Silent line ∧ ¬ IsHeader line ∧ '=' ∉ line.toList

lemma stripped_eq_some_iff {chars inner : List Char} :
    (stripStart? ['['] chars).bind (stripEnd? [']']) = some inner ↔
      chars = '[' :: (inner ++ [']']) := by
  simp [Option.bind_eq_some_iff, stripStart?_eq_some_iff, stripEnd?_eq_some_iff]

/-- A line is what it is read as.

**Proof sketch.** By the order in which a line is looked at. What comes to a later question is none
of the kinds that were asked for before. -/
lemma says_ofText (raw : String) : Says (trim raw) (ProfileLine.ofText raw) := by
  unfold ProfileLine.ofText
  generalize trim raw = line
  dsimp only
  have hchars (inner : List Char) :
      line.toList = '[' :: (inner ++ [']']) ↔ line = "[" ++ String.ofList inner ++ "]" := by
    rw [← String.toList_inj]
    simp
  split
  · next hline => exact .inl (String.toList_eq_nil_iff.mp hline)
  · next hline => exact .inr (.inl (by simp [hline]))
  · next hline => exact .inr (.inr (by simp [hline]))
  · next hempty hhash hsemicolon =>
    split
    · next inner hinner =>
      exact ⟨String.ofList inner, (hchars inner).mp (stripped_eq_some_iff.mp hinner), rfl⟩
    · next hnone =>
      have hsilent : ¬ Silent line := by
        rintro (rfl | hfirst | hfirst)
        · exact hempty rfl
        · obtain ⟨rest, hrest⟩ := List.head?_eq_some_iff.mp hfirst
          exact hhash rest hrest
        · obtain ⟨rest, hrest⟩ := List.head?_eq_some_iff.mp hfirst
          exact hsemicolon rest hrest
      have hheader : ¬ IsHeader line := by
        rw [isHeader_iff]
        rintro ⟨name, inner, hline, -⟩
        have hsome : (stripStart? ['['] line.toList).bind (stripEnd? [']']) = some inner.toList :=
          stripped_eq_some_iff.mpr (by simp [hline])
        rw [hnone] at hsome
        cases hsome
      split
      · next before after hcut =>
        obtain ⟨hline, hbefore⟩ := splitOnce_eq_some_iff.mp hcut
        refine ⟨hsilent, hheader, String.ofList before, String.ofList after, ?_, by simpa, rfl, rfl⟩
        rw [← String.toList_inj]
        simp [hline]
      · next hcut => exact ⟨hsilent, hheader, splitOnce_eq_none_iff.mp hcut⟩

/-! ## Lines in order -/

/-- A line is below a header. -/
def BelowHeader (lines : List String) (n : Nat) : Prop :=
  ∃ m < n, ∃ header, lines[m]? = some header ∧ IsHeader header

/-- The line of an index is in order: it says nothing, it is the header of a known section, or it is
none of these, has an equality sign and is below some header. -/
inductive Fits (lines : List String) (n : Nat) : Prop
  | silent {line : String} (hline : lines[n]? = some line) (h : Silent line)
  | header {line name : String} {topic : Topic} (hline : lines[n]? = some line)
      (h : Heads line name) (hknown : Topic.ofName? name = some topic)
  | entry {line : String} (hline : lines[n]? = some line) (hsilent : ¬ Silent line)
      (hheader : ¬ IsHeader line) (hsign : '=' ∈ line.toList) (hbelow : BelowHeader lines n)

/-- What is wrong with the line of an index, with its number counted from 1. -/
inductive Breaks (lines : List String) (n : Nat) : ProfileError → Prop
  | unknownSection {line name : String} (hline : lines[n]? = some line) (h : Heads line name)
      (hunknown : Topic.ofName? name = none) : Breaks lines n (.unknownSection (n + 1) name)
  | noEntry {line : String} (hline : lines[n]? = some line) (hsilent : ¬ Silent line)
      (hheader : ¬ IsHeader line) (hsign : '=' ∉ line.toList) : Breaks lines n (.noEntry (n + 1))
  | outsideSection {line : String} (hline : lines[n]? = some line) (hsilent : ¬ Silent line)
      (hheader : ¬ IsHeader line) (hsign : '=' ∈ line.toList) (hbelow : ¬ BelowHeader lines n) :
      Breaks lines n (.outsideSection (n + 1))

lemma Breaks.lt_length {e : ProfileError} (h : Breaks lines n e) : n < lines.length := by
  cases h <;> exact (List.getElem?_eq_some_iff.mp ‹_›).1

/-- Nothing is wrong with a line that is in order. -/
lemma Fits.not_breaks {e : ProfileError} (h : Fits lines n) : ¬ Breaks lines n e := by
  intro hbreaks
  cases h with
  | silent hline h =>
    cases hbreaks <;> grind [Heads.isHeader, IsHeader.not_silent]
  | header hline h hknown =>
    cases hbreaks <;> grind [Heads.isHeader, Heads.unique]
  | entry hline hsilent hheader hsign hbelow =>
    cases hbreaks <;> grind [Heads.isHeader]

/-- One thing at most is wrong with a line. -/
lemma Breaks.unique {e e' : ProfileError} (h : Breaks lines n e) (h' : Breaks lines n e') :
    e = e' := by
  cases h <;> cases h' <;> grind [Heads.isHeader, Heads.unique]

/-- What is wrong with a line is told with its number. -/
lemma Breaks.message {e : ProfileError} (h : Breaks lines n e) :
    ∃ what, e.message = "config line " ++ toString (n + 1) ++ ": " ++ what := by
  cases h with
  | @unknownSection line name _ _ _ =>
    refine ⟨"unknown section [" ++ name ++ "]", ?_⟩
    change "config line " ++ toString (n + 1) ++ (": " ++ "unknown section [") ++ name ++ "]" = _
    simp only [String.append_assoc]
  | noEntry _ _ _ _ =>
    refine ⟨"expected `key = value`", ?_⟩
    change "config line " ++ toString (n + 1) ++ (": " ++ "expected `key = value`") = _
    rw [String.append_assoc, String.append_assoc, String.append_assoc]
  | outsideSection _ _ _ _ _ =>
    refine ⟨"entry outside of a section", ?_⟩
    change "config line " ++ toString (n + 1) ++ (": " ++ "entry outside of a section") = _
    rw [String.append_assoc, String.append_assoc, String.append_assoc]

/-! ## Sections and entries -/

/-- A line is in the section of a topic: the last header above it is one of that section. -/
def Under (lines : List String) (n : Nat) (topic : Topic) : Prop :=
  ∃ m < n, ∃ header name, lines[m]? = some header ∧ Heads header name ∧
    Topic.ofName? name = some topic ∧
    ∀ k, m < k → k < n → ∀ other, lines[k]? = some other → ¬ IsHeader other

lemma Under.unique {topic' : Topic} (h : Under lines n topic) (h' : Under lines n topic') :
    topic = topic' := by
  obtain ⟨m, hm, header, name, hline, hheads, htopic, hlast⟩ := h
  obtain ⟨m', hm', header', name', hline', hheads', htopic', hlast'⟩ := h'
  obtain hlt | rfl | hgt := Nat.lt_trichotomy m m'
  · exact absurd hheads'.isHeader (hlast m' hlt hm' header' hline')
  · obtain rfl : header = header' := Option.some.inj (hline.symm.trans hline')
    obtain rfl := hheads.unique hheads'
    exact Option.some.inj (htopic.symm.trans htopic')
  · exact absurd hheads.isHeader (hlast' m hgt hm header hline)

/-- The entry on the line of an index. -/
def Gives (lines : List String) (n : Nat) (e : ProfileEntry) : Prop :=
  ∃ line, lines[n]? = some line ∧ ¬ Silent line ∧ ¬ IsHeader line ∧ Assigns line e.key e.value ∧
    Under lines n e.topic

lemma Gives.unique {e e' : ProfileEntry} (h : Gives lines n e) (h' : Gives lines n e') : e = e' := by
  obtain ⟨line, hline, -, -, hassigns, hunder⟩ := h
  obtain ⟨line', hline', -, -, hassigns', hunder'⟩ := h'
  obtain rfl : line = line' := Option.some.inj (hline.symm.trans hline')
  obtain ⟨hkey, hvalue⟩ := hassigns.unique hassigns'
  have htopic := hunder.unique hunder'
  cases e
  cases e'
  simp_all

/-- What the last entry of a key says, among the lines from an index on. -/
def Latest (lines : List String) (n : Nat) (topic : Topic) (key : String) : Option String → Prop
  | some value => ∃ m, n ≤ m ∧ Gives lines m ⟨topic, key, value⟩ ∧
      ∀ k, m < k → ∀ other, ¬ Gives lines k ⟨topic, key, other⟩
  | none => ∀ m, n ≤ m → ∀ value, ¬ Gives lines m ⟨topic, key, value⟩

/-- There is one last entry at most. -/
lemma Latest.unique {found found' : Option String} (h : Latest lines n topic key found)
    (h' : Latest lines n topic key found') : found = found' := by
  cases found with
  | none =>
    cases found' with
    | none => rfl
    | some value =>
      obtain ⟨m, hm, hgives, -⟩ := h'
      exact absurd hgives (h m hm value)
  | some value =>
    obtain ⟨m, hm, hgives, hlast⟩ := h
    cases found' with
    | none => exact absurd hgives (h' m hm value)
    | some value' =>
      obtain ⟨m', -, hgives', hlast'⟩ := h'
      obtain hlt | rfl | hgt := Nat.lt_trichotomy m m'
      · exact absurd hgives' (hlast m' hlt value')
      · have heq := hgives.unique hgives'
        simp_all
      · exact absurd hgives (hlast' m hgt value)

/-- A line without an entry for a key does not matter for it. -/
lemma Latest.of_succ {found : Option String} (hno : ∀ value, ¬ Gives lines n ⟨topic, key, value⟩)
    (h : Latest lines (n + 1) topic key found) : Latest lines n topic key found := by
  cases found with
  | some value =>
    obtain ⟨m, hm, hgives, hlast⟩ := h
    exact ⟨m, by omega, hgives, hlast⟩
  | none =>
    intro m hm value
    obtain rfl | hlt := Nat.eq_or_lt_of_le hm
    · exact hno value
    · exact h m hlt value

/-! ## Entries in a profile -/

/-- What is found in a profile that is laid over another one is what is found in it, or else in the
other one. -/
lemma find?_merge (below above : Profile) (topic : Topic) (key : String) :
    (below.merge above).find? topic key = (above.find? topic key).or (below.find? topic key) := by
  simp [find?, merge, List.find?_append, Option.map_or]

lemma find?_single (e : ProfileEntry) (topic : Topic) (key : String) :
    find? ⟨[e]⟩ topic key = if e.topic = topic ∧ e.key = key then some e.value else none := by
  simp [find?]

/-! ## The reader -/

/-- The section that the reader is in when it comes to a line. -/
def Standing (lines : List String) (n : Nat) : Option Topic → Prop
  | some topic => Under lines n topic
  | none => ¬ BelowHeader lines n

lemma standing_zero (lines : List String) : Standing lines 0 none := by
  rintro ⟨m, hm, -⟩
  omega

lemma Standing.succ {current : Option Topic} (h : Standing lines n current)
    (hline : lines[n]? = some line) (hheader : ¬ IsHeader line) :
    Standing lines (n + 1) current := by
  cases current with
  | none =>
    rintro ⟨m, hm, header, hat, hheads⟩
    obtain rfl | hlt := Nat.eq_or_lt_of_le (Nat.lt_succ_iff.mp hm)
    · obtain rfl : header = line := Option.some.inj (hat.symm.trans hline)
      exact hheader hheads
    · exact h ⟨m, hlt, header, hat, hheads⟩
  | some topic =>
    obtain ⟨m, hm, header, name, hat, hheads, htopic, hlast⟩ := h
    refine ⟨m, by omega, header, name, hat, hheads, htopic, fun k hmk hk other hother => ?_⟩
    obtain rfl | hlt := Nat.eq_or_lt_of_le (Nat.lt_succ_iff.mp hk)
    · obtain rfl : other = line := Option.some.inj (hother.symm.trans hline)
      exact hheader
    · exact hlast k hmk hlt other hother

lemma standing_succ_of_heads (hline : lines[n]? = some line) (h : Heads line name)
    (htopic : Topic.ofName? name = some topic) : Standing lines (n + 1) (some topic) :=
  ⟨n, n.lt_succ_self, line, name, hline, h, htopic, fun k hnk hk => absurd hk (by omega)⟩

/-- What answers the lines from an index on: entries with what the last one of each key says if the
lines are all in order, and else what is wrong with the first one that is not. -/
def Answers (lines : List String) (n : Nat) : Except ProfileError (List ProfileEntry) → Prop
  | .ok entries => (∀ m, n ≤ m → m < lines.length → Fits lines m) ∧
      ∀ topic key, Latest lines n topic key (find? ⟨entries⟩ topic key)
  | .error e => ∃ m, n ≤ m ∧ Breaks lines m e ∧ ∀ k, n ≤ k → k < m → Fits lines k

lemma Breaks.answers {e : ProfileError} (h : Breaks lines n e) : Answers lines n (.error e) :=
  ⟨n, Nat.le_refl n, h, fun k hnk hk => absurd hk (by omega)⟩

lemma fits_from_succ {stop : Nat} (hfits : Fits lines n)
    (h : ∀ m, n + 1 ≤ m → m < stop → Fits lines m) : ∀ m, n ≤ m → m < stop → Fits lines m := by
  intro m hm hstop
  obtain rfl | hlt := Nat.eq_or_lt_of_le hm
  · exact hfits
  · exact h m hlt hstop

/-- What answers the lines below a line in order without an entry answers that line, too. -/
lemma Answers.of_succ {answer : Except ProfileError (List ProfileEntry)} (hfits : Fits lines n)
    (hno : ∀ e, ¬ Gives lines n e) (h : Answers lines (n + 1) answer) : Answers lines n answer := by
  cases answer with
  | ok entries =>
    obtain ⟨hrest, hlatest⟩ := h
    exact ⟨fits_from_succ hfits hrest, fun topic key =>
      (hlatest topic key).of_succ fun value => hno ⟨topic, key, value⟩⟩
  | error e =>
    obtain ⟨m, hm, hbreaks, hrest⟩ := h
    exact ⟨m, by omega, hbreaks, fits_from_succ hfits hrest⟩

/-- The entry on a line in order stands in front of those of the lines below it. -/
lemma Answers.cons {e : ProfileEntry} {answer : Except ProfileError (List ProfileEntry)}
    (hfits : Fits lines n) (hgives : Gives lines n e) (h : Answers lines (n + 1) answer) :
    Answers lines n (answer.map (e :: ·)) := by
  cases answer with
  | error e' =>
    obtain ⟨m, hm, hbreaks, hrest⟩ := h
    exact ⟨m, by omega, hbreaks, fits_from_succ hfits hrest⟩
  | ok entries =>
    obtain ⟨hrest, hlatest⟩ := h
    refine ⟨fits_from_succ hfits hrest, fun topic key => ?_⟩
    have hbelow := hlatest topic key
    have hmerge : find? ⟨e :: entries⟩ topic key =
        (find? ⟨entries⟩ topic key).or (find? ⟨[e]⟩ topic key) := find?_merge ⟨[e]⟩ ⟨entries⟩ topic key
    rw [hmerge, find?_single]
    cases hfound : find? ⟨entries⟩ topic key with
    | some value =>
      rw [hfound] at hbelow
      obtain ⟨m, hm, hat, hlast⟩ := hbelow
      exact ⟨m, by omega, hat, hlast⟩
    | none =>
      rw [hfound] at hbelow
      rw [Option.none_or]
      split
      · next heq =>
        obtain ⟨rfl, rfl⟩ := heq
        exact ⟨n, Nat.le_refl n, hgives, hbelow⟩
      · next hne =>
        refine Latest.of_succ (fun value hother => hne ?_) hbelow
        obtain rfl := hgives.unique hother
        exact ⟨rfl, rfl⟩

/-- **What the reader makes of lines.** From a line on, in the section of that line, what is read
answers the lines.

**Proof sketch.** Induction on the lines that are left; the invariant is that the section is that of
the last header above (`Standing`). By the kind of line: one that is silent and a header give
nothing, an entry is put in front, and a fault ends it all. -/
theorem readProfile_answers {raws rest : List String} {current : Option Topic}
    (hrest : raws.drop n = rest) (h : Standing (raws.map trim) n current) :
    Answers (raws.map trim) n (readProfile (n + 1) current rest) := by
  induction rest generalizing n current with
  | nil =>
    rw [List.drop_eq_nil_iff] at hrest
    rw [readProfile]
    refine ⟨fun m hm hlt => ?_, fun topic key => ?_⟩
    · rw [List.length_map] at hlt
      omega
    · rintro m hm value ⟨line, hline, -⟩
      have := (List.getElem?_eq_some_iff.mp hline).1
      rw [List.length_map] at this
      omega
  | cons raw rest ih =>
    have hline : (raws.map trim)[n]? = some (trim raw) := by
      rw [List.getElem?_map, ← List.head?_drop, hrest]
      rfl
    have hnext : raws.drop (n + 1) = rest := by
      rw [← List.drop_drop, hrest]
      rfl
    have hsays := says_ofText raw
    rw [readProfile]
    cases hkind : ProfileLine.ofText raw with
    | comment =>
      rw [hkind] at hsays
      have hheader : ¬ IsHeader (trim raw) := fun hheader => hheader.not_silent hsays
      refine Answers.of_succ (.silent hline hsays) ?_ (ih hnext (h.succ hline hheader))
      rintro e ⟨line, hline', hsilent, -⟩
      obtain rfl : trim raw = line := Option.some.inj (hline.symm.trans hline')
      exact hsilent hsays
    | header name =>
      rw [hkind] at hsays
      cases htopic : Topic.ofName? name with
      | none =>
        simp only [htopic]
        exact (Breaks.unknownSection hline hsays htopic).answers
      | some topic =>
        simp only [htopic]
        refine Answers.of_succ (.header hline hsays htopic) ?_
          (ih hnext (standing_succ_of_heads hline hsays htopic))
        rintro e ⟨line, hline', -, hheader, -⟩
        obtain rfl : trim raw = line := Option.some.inj (hline.symm.trans hline')
        exact hheader hsays.isHeader
    | entry key value =>
      rw [hkind] at hsays
      obtain ⟨hsilent, hheader, hassigns⟩ := hsays
      cases current with
      | none => exact (Breaks.outsideSection hline hsilent hheader hassigns.mem h).answers
      | some topic =>
        obtain ⟨m, hm, header, name, hat, hheads, -⟩ := id h
        have hfits : Fits (raws.map trim) n :=
          .entry hline hsilent hheader hassigns.mem ⟨m, hm, header, hat, hheads.isHeader⟩
        exact Answers.cons hfits ⟨trim raw, hline, hsilent, hheader, hassigns, h⟩
          (ih hnext (h.succ hline hheader))
    | other =>
      rw [hkind] at hsays
      obtain ⟨hsilent, hheader, hsign⟩ := hsays
      exact (Breaks.noEntry hline hsilent hheader hsign).answers

/-! ## Texts -/

variable {text : String}

lemma ofText_answers (text : String) :
    Answers (trimmedLines text) 0 (readProfile 1 none (feedLines text)) :=
  readProfile_answers List.drop_zero (standing_zero _)

/-- **Which texts are read.** A text is the text of a profile if all its lines are in order. -/
theorem exists_ofText_iff :
    (∃ p, ofText text = .ok p) ↔
      ∀ n < (trimmedLines text).length, Fits (trimmedLines text) n := by
  have hanswers := ofText_answers text
  rw [ofText]
  cases hread : readProfile 1 none (feedLines text) with
  | ok entries =>
    rw [hread] at hanswers
    exact iff_of_true ⟨⟨entries⟩, rfl⟩ fun n hn => hanswers.1 n n.zero_le hn
  | error e =>
    rw [hread] at hanswers
    obtain ⟨n, -, hbreaks, -⟩ := hanswers
    refine iff_of_false nofun fun h => ?_
    exact (h n hbreaks.lt_length).not_breaks hbreaks

/-- **What is reported.** The fault that is reported is that of the first line that is not in order,
with its number. -/
theorem ofText_eq_error_iff {e : ProfileError} :
    ofText text = .error e ↔
      ∃ n, Breaks (trimmedLines text) n e ∧ ∀ m < n, Fits (trimmedLines text) m := by
  have hanswers := ofText_answers text
  rw [ofText]
  cases hread : readProfile 1 none (feedLines text) with
  | ok entries =>
    rw [hread] at hanswers
    refine iff_of_false nofun ?_
    rintro ⟨n, hbreaks, -⟩
    exact (hanswers.1 n n.zero_le hbreaks.lt_length).not_breaks hbreaks
  | error e' =>
    rw [hread] at hanswers
    obtain ⟨n, -, hbreaks, hfirst⟩ := hanswers
    constructor
    · intro h
      obtain rfl : e' = e := Except.error.inj h
      exact ⟨n, hbreaks, fun m hm => hfirst m m.zero_le hm⟩
    · rintro ⟨n', hbreaks', hfirst'⟩
      obtain hlt | rfl | hgt := Nat.lt_trichotomy n n'
      · exact absurd hbreaks (hfirst' n hlt).not_breaks
      · rw [hbreaks.unique hbreaks']
        rfl
      · exact absurd hbreaks' (hfirst n' n'.zero_le hgt).not_breaks

/-- **What is found.** In a profile that was read, the value of a key is that of the last entry for it
in the section of its topic. -/
theorem find?_ofText_iff {p : Profile} {found : Option String} (h : ofText text = .ok p) :
    p.find? topic key = found ↔ Latest (trimmedLines text) 0 topic key found := by
  have hanswers := ofText_answers text
  rw [ofText] at h
  cases hread : readProfile 1 none (feedLines text) with
  | error e =>
    rw [hread] at h
    cases h
  | ok entries =>
    rw [hread] at h hanswers
    obtain rfl : (⟨entries⟩ : Profile) = p := Except.ok.inj h
    have hlatest := hanswers.2 topic key
    exact ⟨fun hfound => hfound ▸ hlatest, hlatest.unique⟩

end Beans.Profile
