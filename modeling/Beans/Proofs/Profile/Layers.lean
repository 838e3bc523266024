import Mathlib.Data.List.Induction
import Mathlib.Tactic.Common
import Beans.Proofs.Profile.Reading
import Beans.Proofs.Result

/-!
# Profiles laid over each other

A profile keeps its entries as they were given. What they amount to is a table for each topic, in
which the last entry of a key counts, and to lay a profile over another one is to put its tables over
those of the other. A text below another one does the same: it is read as if it stood alone, for it
has to start with a header, whatever section the text above it ends in.

## Main definitions

* `Beans.Profile.table` — the table of a topic.

## Main results

* `Beans.Profile.table_merge` — the tables of a profile that is laid over another one.
* `Beans.Profile.ofText_append` — two texts, one below the other, are read as the second laid over the
  first.
* `Beans.Profile.reading_laws` — which texts are read, what is found in them, and that texts and
  profiles are layered alike.
-/

set_option autoImplicit false

namespace Beans.Profile

open Text

variable {a b key : String} {topic : Topic} {x y : Profile}

/-! ## Tables -/

/-- The table of a topic: the entries are put into it in the order in which they were given. -/
def table (p : Profile) (topic : Topic) : Std.HashMap String String :=
  p.entries.foldl (fun t e => if e.topic = topic then t.insert e.key e.value else t) ∅

/-- What is found in a profile is what its table holds. -/
theorem getElem?_table (p : Profile) (topic : Topic) (key : String) :
    (p.table topic)[key]? = p.find? topic key := by
  obtain ⟨entries⟩ := p
  induction entries using List.reverseRecOn with
  | nil => simp [table, find?]
  | append_singleton entries e ih =>
    have hmerge : find? ⟨entries ++ [e]⟩ topic key =
        (find? ⟨[e]⟩ topic key).or (find? ⟨entries⟩ topic key) := find?_merge ⟨entries⟩ ⟨[e]⟩ topic key
    rw [hmerge, find?_single, ← ih]
    simp only [table, List.foldl_append, List.foldl_cons, List.foldl_nil]
    by_cases htopic : e.topic = topic
    · rw [if_pos htopic, Std.HashMap.getElem?_insert]
      by_cases hkey : e.key = key <;> simp [htopic, hkey]
    · simp [htopic]

/-- **Tables of layers.** The tables of a profile that is laid over another one are its own, over
those of the other. -/
theorem table_merge (below above : Profile) (topic : Topic) :
    ((below.merge above).table topic).Equiv (below.table topic ∪ above.table topic) := by
  refine Std.HashMap.Equiv.of_forall_getElem?_eq fun key => ?_
  rw [getElem?_table, find?_merge, Std.HashMap.getElem?_union, getElem?_table, getElem?_table]

/-! ## Lines below each other -/

variable {raws raws' : List String} {entries entries' : List ProfileEntry} {n : Nat}
  {current : Option Topic}

/-- Blanks around the lines do not matter. -/
lemma readProfile_map_trim (n : Nat) (current : Option Topic) (raws : List String) :
    readProfile n current (raws.map trim) = readProfile n current raws := by
  have hkind (raw : String) : ProfileLine.ofText (trim raw) = ProfileLine.ofText raw := by
    simp only [ProfileLine.ofText, trim_idem]
  induction raws generalizing n current with
  | nil => rfl
  | cons raw raws ih => simp only [List.map_cons, readProfile, hkind, ih]

/-- Lines are read if the first one says nothing, is the header of a known section or is an entry in
one, and the others are read below it. -/
lemma readProfile_cons_eq_ok_iff {raw : String} :
    readProfile n current (raw :: raws) = .ok entries ↔
      (ProfileLine.ofText raw = .comment ∧ readProfile (n + 1) current raws = .ok entries) ∨
      (∃ name topic, ProfileLine.ofText raw = .header name ∧ Topic.ofName? name = some topic ∧
        readProfile (n + 1) (some topic) raws = .ok entries) ∨
      ∃ key value topic rest, ProfileLine.ofText raw = .entry key value ∧ current = some topic ∧
        readProfile (n + 1) current raws = .ok rest ∧ ⟨topic, key, value⟩ :: rest = entries := by
  rw [readProfile]
  cases ProfileLine.ofText raw with
  | comment => simp
  | header name => cases htopic : Topic.ofName? name <;> simp [htopic]
  | entry key value => cases current <;> simp [map_eq_ok_iff]
  | other => simp

/-- Lines that are read are read alike from any number on, and in any section if they need none. -/
lemma readProfile_elsewhere {n' : Nat} {current' : Option Topic}
    (hcurrent : current = none ∨ current' = current)
    (h : readProfile n current raws = .ok entries) :
    readProfile n' current' raws = .ok entries := by
  induction raws generalizing n n' current current' entries with
  | nil => exact h
  | cons raw raws ih =>
    rw [readProfile_cons_eq_ok_iff] at h ⊢
    rcases h with ⟨hkind, hrest⟩ | ⟨name, topic, hkind, htopic, hrest⟩ |
      ⟨key, value, topic, rest, hkind, rfl, hrest, rfl⟩
    · exact .inl ⟨hkind, ih hcurrent hrest⟩
    · exact .inr (.inl ⟨name, topic, hkind, htopic, ih (.inr rfl) hrest⟩)
    · obtain rfl : current' = some topic := hcurrent.resolve_left (by simp)
      exact .inr (.inr ⟨key, value, topic, rest, hkind, rfl, ih (.inr rfl) hrest, rfl⟩)

/-- Lines that are read in no section are read alike below other lines. -/
lemma readProfile_append (h : readProfile n current raws = .ok entries)
    (h' : readProfile 1 none raws' = .ok entries') :
    readProfile n current (raws ++ raws') = .ok (entries ++ entries') := by
  induction raws generalizing n current entries with
  | nil =>
    obtain rfl : [] = entries := Except.ok.inj h
    exact readProfile_elsewhere (.inl rfl) h'
  | cons raw raws ih =>
    rw [List.cons_append, readProfile_cons_eq_ok_iff]
    rw [readProfile_cons_eq_ok_iff] at h
    rcases h with ⟨hkind, hrest⟩ | ⟨name, topic, hkind, htopic, hrest⟩ |
      ⟨key, value, topic, rest, hkind, rfl, hrest, rfl⟩
    · exact .inl ⟨hkind, ih hrest⟩
    · exact .inr (.inl ⟨name, topic, hkind, htopic, ih hrest⟩)
    · exact .inr (.inr ⟨key, value, topic, rest ++ entries', hkind, rfl, ih hrest, rfl⟩)

lemma readProfile_empty {gap : List String} (hgap : ∀ line ∈ gap, line = "") (n : Nat) :
    readProfile n current gap = .ok [] := by
  induction gap generalizing n with
  | nil => rfl
  | cons line gap ih =>
    obtain ⟨rfl, hrest⟩ := List.forall_mem_cons.mp hgap
    exact ih hrest (n + 1)

lemma ofText_eq_ok_iff {text : String} :
    ofText text = .ok x ↔ readProfile 1 none (trimmedLines text) = .ok x.entries := by
  rw [trimmedLines, readProfile_map_trim, ofText, map_eq_ok_iff]
  constructor
  · rintro ⟨entries, hread, rfl⟩
    exact hread
  · exact fun hread => ⟨x.entries, hread, rfl⟩

/-- **Texts of layers.** Two texts, one below the other, are read as the profile of the second laid
over that of the first. -/
theorem ofText_append (ha : ofText a = .ok x) (hb : ofText b = .ok y) :
    ofText (a ++ "\n" ++ b) = .ok (x.merge y) := by
  rw [ofText_eq_ok_iff] at ha hb ⊢
  obtain ⟨gap, hgap, hlines⟩ := trimmedLines_append a b
  rw [hlines, List.append_assoc]
  exact readProfile_append ha (readProfile_append (readProfile_empty hgap 1) hb)

/-- **Profiles and their texts.** Two texts that are read are read together, one below the other, and
this is the second profile laid over the first, table by table. A text is read exactly if all its
trimmed lines are in order; the fault of the first line that is not is reported with its number; and in
a text that is read, the last entry of a key in the sections of a topic counts. That the second of two
texts starts with a header, its silent lines apart, is no condition of its own: an entry above all
headers is not in order. -/
theorem reading_laws :
    (∀ a b x y, ofText a = .ok x → ofText b = .ok y →
      ofText (a ++ "\n" ++ b) = .ok (x.merge y) ∧
        ∀ topic, ((x.merge y).table topic).Equiv (x.table topic ∪ y.table topic)) ∧
    ∀ text,
      ((∃ p, ofText text = .ok p) ↔
        ∀ n < (trimmedLines text).length, Fits (trimmedLines text) n) ∧
      (∀ e, ofText text = .error e ↔
        ∃ n, Breaks (trimmedLines text) n e ∧ ∀ m < n, Fits (trimmedLines text) m) ∧
      (∀ n e, Breaks (trimmedLines text) n e → ¬ Fits (trimmedLines text) n ∧
        ∃ what, e.message = "config line " ++ toString (n + 1) ++ ": " ++ what) ∧
      ∀ p, ofText text = .ok p → ∀ topic key found,
        (p.table topic)[key]? = p.find? topic key ∧
          (p.find? topic key = found ↔ Latest (trimmedLines text) 0 topic key found) := by
  refine ⟨fun a b x y ha hb => ⟨ofText_append ha hb, table_merge x y⟩, fun text => ?_⟩
  refine ⟨exists_ofText_iff, fun e => ofText_eq_error_iff, fun n e h => ?_, fun p hp => ?_⟩
  · exact ⟨fun hfits => hfits.not_breaks h, h.message⟩
  · exact fun topic key found => ⟨getElem?_table p topic key, find?_ofText_iff hp⟩

/-- A text below another one that has the same section and key, and a text with an entry above its
header. -/
theorem reading_laws_overlay :
    ofText "# base\n[immutable.builder.init]\nVec = Vec::new()\nBox = a=b" =
        .ok ⟨[⟨.builderInit, "Vec", "Vec::new()"⟩, ⟨.builderInit, "Box", "a=b"⟩]⟩ ∧
      ofText "\n [ immutable.builder.init ]\r\n Vec = vec![]\r\n; end" =
        .ok ⟨[⟨.builderInit, "Vec", "vec![]"⟩]⟩ ∧
      ofText ("# base\n[immutable.builder.init]\nVec = Vec::new()\nBox = a=b" ++ "\n" ++
          "\n [ immutable.builder.init ]\r\n Vec = vec![]\r\n; end") =
        .ok ⟨[⟨.builderInit, "Vec", "Vec::new()"⟩, ⟨.builderInit, "Box", "a=b"⟩,
          ⟨.builderInit, "Vec", "vec![]"⟩]⟩ ∧
      Latest (trimmedLines "# base\n[immutable.builder.init]\nVec = Vec::new()\nBox = a=b") 0
        .builderInit "Box" (some "a=b") ∧
      ∃ n, Breaks (trimmedLines "; no section\nVec = x\n[immutable.get.clone]") n
        (.outsideSection 2) := by
  have hbase : ofText "# base\n[immutable.builder.init]\nVec = Vec::new()\nBox = a=b" =
      .ok ⟨[⟨.builderInit, "Vec", "Vec::new()"⟩, ⟨.builderInit, "Box", "a=b"⟩]⟩ := by decide +kernel
  have habove : ofText "\n [ immutable.builder.init ]\r\n Vec = vec![]\r\n; end" =
      .ok ⟨[⟨.builderInit, "Vec", "vec![]"⟩]⟩ := by decide +kernel
  have hfault : ofText "; no section\nVec = x\n[immutable.get.clone]" =
      .error (.outsideSection 2) := by decide +kernel
  obtain ⟨hlayers, htexts⟩ := reading_laws
  obtain ⟨-, -, -, hfound⟩ := htexts "# base\n[immutable.builder.init]\nVec = Vec::new()\nBox = a=b"
  obtain ⟨-, herror, -⟩ := htexts "; no section\nVec = x\n[immutable.get.clone]"
  obtain ⟨n, hbreaks, -⟩ := (herror _).mp hfault
  exact ⟨hbase, habove, (hlayers _ _ _ _ hbase habove).1,
    (hfound _ hbase .builderInit "Box" (some "a=b")).2.mp (by decide +kernel), n, hbreaks⟩

end Beans.Profile
