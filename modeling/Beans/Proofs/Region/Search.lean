import Mathlib.Tactic.Common
import Beans.Region.Marker

/-!
# What a search for markers finds

The search goes through the lines with the places of the markers that it has met, and stops at the
first one that does not fit. What it answers depends on where the markers stand and on nothing else,
and is said here without the search: there are no markers, there is one of each in order, or one of
them is at fault.

## Main definitions

* `Beans.Region.MarkerAt`, `Beans.Region.Unmarked` — a marker stands at an index; no line is a marker.
* `Beans.Region.Marks` — a region is where the only two markers stand.
* `Beans.Region.Misplaced`, `Beans.Region.Reported` — a marker does not fit the ones before it; the
  fault that is reported.
* `Beans.Region.Answer` — what is to be answered for some lines.

## Main results

* `Beans.Region.find_eq_iff` — a search gives the one answer that there is.
* `Beans.Region.find_exact` — each answer, and the lines of the region that is found.
-/

set_option autoImplicit false

namespace Beans.Region

open Text

variable {before rest lines : List String} {marker line : String} {i j : Nat}

/-! ## Markers -/

lemma start_ne_end : startMarker ≠ endMarker := by decide +kernel

/-- A marker stands at an index of some lines, apart from blanks around it. -/
def MarkerAt (marker : String) (lines : List String) (i : Nat) : Prop :=
  ∃ line, lines[i]? = some line ∧ trim line = marker

lemma MarkerAt.lt_length (h : MarkerAt marker lines i) : i < lines.length := by
  obtain ⟨line, hline, -⟩ := h
  exact (List.getElem?_eq_some_iff.mp hline).1

lemma not_markerAt_nil : ¬ MarkerAt marker [] i := by
  rintro ⟨line, hline, -⟩
  cases hline

/-- Further lines do not matter for the markers in front of them. -/
lemma markerAt_append_iff (hi : i < before.length) :
    MarkerAt marker (before ++ rest) i ↔ MarkerAt marker before i := by
  rw [MarkerAt, List.getElem?_append_left hi, MarkerAt]

lemma markerAt_length_iff :
    MarkerAt marker (before ++ line :: rest) before.length ↔ trim line = marker := by
  simp [MarkerAt]

/-- The markers with one more line. -/
lemma markerAt_concat_iff :
    MarkerAt marker (before ++ [line]) i ↔
      MarkerAt marker before i ∨ i = before.length ∧ trim line = marker := by
  rcases Nat.lt_trichotomy i before.length with hlt | rfl | hgt
  · rw [markerAt_append_iff hlt]
    exact ⟨.inl, fun h => h.resolve_right fun h => absurd h.1 (by omega)⟩
  · rw [markerAt_length_iff]
    exact ⟨fun h => .inr ⟨rfl, h⟩, fun h => h.elim (fun h => absurd h.lt_length (by omega)) And.right⟩
  · constructor
    · intro h
      have := h.lt_length
      simp only [List.length_append, List.length_singleton] at this
      omega
    · rintro (h | ⟨h, -⟩)
      · exact absurd h.lt_length (by omega)
      · omega

/-- There are no two markers in one place. -/
lemma MarkerAt.not_end (h : MarkerAt startMarker lines i) : ¬ MarkerAt endMarker lines i := by
  obtain ⟨line, hline, hstart⟩ := h
  rintro ⟨line', hline', hend⟩
  obtain rfl : line = line' := Option.some.inj (hline.symm.trans hline')
  exact start_ne_end (hstart.symm.trans hend)

lemma forall_ne_iff :
    (∀ line ∈ lines, trim line ≠ marker) ↔ ∀ i, ¬ MarkerAt marker lines i := by
  constructor
  · rintro h i ⟨line, hline, hmarker⟩
    exact h line (List.mem_of_getElem? hline) hmarker
  · intro h line hline hmarker
    obtain ⟨i, hi⟩ := List.getElem?_of_mem hline
    exact h i ⟨line, hi, hmarker⟩

/-- No line is a marker. -/
def Unmarked (lines : List String) : Prop :=
  ∀ line ∈ lines, trim line ≠ startMarker ∧ trim line ≠ endMarker

lemma unmarked_iff : Unmarked lines ↔
    (∀ i, ¬ MarkerAt startMarker lines i) ∧ ∀ i, ¬ MarkerAt endMarker lines i := by
  rw [← forall_ne_iff, ← forall_ne_iff]
  exact ⟨fun h => ⟨fun line hline => (h line hline).1, fun line hline => (h line hline).2⟩,
    fun h line hline => ⟨h.1 line hline, h.2 line hline⟩⟩

/-! ## Answers -/

/-- A region is where the only two markers stand, the start marker first. -/
structure Marks (lines : List String) (r : Region) : Prop where
  start_iff : ∀ i, MarkerAt startMarker lines i ↔ i = r.start
  stop_iff : ∀ i, MarkerAt endMarker lines i ↔ i = r.stop
  start_lt_stop : r.start < r.stop

/-- The marker at an index does not fit the ones before it: it repeats one, or it is an end marker
without a start marker before it. -/
inductive Misplaced (lines : List String) (i : Nat) : MarkerFault → Prop
  | repeatedStart {j : Nat} (hi : MarkerAt startMarker lines i) (hlt : j < i)
      (hj : MarkerAt startMarker lines j) : Misplaced lines i .repeatedStart
  | repeatedEnd {j : Nat} (hi : MarkerAt endMarker lines i) (hlt : j < i)
      (hj : MarkerAt endMarker lines j) : Misplaced lines i .repeatedEnd
  | endWithoutStart (hi : MarkerAt endMarker lines i)
      (hnone : ∀ j < i, ¬ MarkerAt startMarker lines j) : Misplaced lines i .endWithoutStart

/-- The fault that is reported, at its line counted from 1: that of the first marker that does not
fit, or of a start marker that is the only marker. -/
inductive Reported (lines : List String) : FaultyMarker → Prop
  | first {i : Nat} {fault : MarkerFault} (h : Misplaced lines i fault)
      (hfirst : ∀ j < i, ∀ other, ¬ Misplaced lines j other) : Reported lines ⟨i + 1, fault⟩
  | alone {i : Nat} (hstart : ∀ j, MarkerAt startMarker lines j ↔ j = i)
      (hstop : ∀ j, ¬ MarkerAt endMarker lines j) : Reported lines ⟨i + 1, .startWithoutEnd⟩

/-- What is to be answered for some lines. -/
def Answer (lines : List String) : Except FaultyMarker (Option Region) → Prop
  | .ok none => Unmarked lines
  | .ok (some r) => Marks lines r
  | .error fault => Reported lines fault

/-- There is a marker where one does not fit. -/
lemma Misplaced.exists_marker {fault : MarkerFault} (h : Misplaced lines i fault) :
    MarkerAt startMarker lines i ∨ MarkerAt endMarker lines i := by
  cases h with
  | repeatedStart hi => exact .inl hi
  | repeatedEnd hi => exact .inr hi
  | endWithoutStart hi => exact .inr hi

/-- Where the only start marker comes before the only end marker, if there is one, all markers fit. -/
lemma not_misplaced_of_order {start : Nat} {fault : MarkerFault}
    (hstart : ∀ i, MarkerAt startMarker lines i ↔ i = start)
    (hstop : ∀ i j, MarkerAt endMarker lines i → MarkerAt endMarker lines j → i = j)
    (hlt : ∀ i, MarkerAt endMarker lines i → start < i) : ¬ Misplaced lines i fault := by
  rintro (⟨hi, hji, hj⟩ | ⟨hi, hji, hj⟩ | ⟨hi, hnone⟩)
  · rw [hstart] at hi hj
    omega
  · have := hstop _ _ hi hj
    omega
  · exact hnone start (hlt i hi) ((hstart start).mpr rfl)

/-- The first marker that does not fit has one fault only. -/
lemma Misplaced.unique {fault fault' : MarkerFault} (h : Misplaced lines i fault)
    (h' : Misplaced lines i fault') (hfirst : ∀ j < i, ∀ other, ¬ Misplaced lines j other) :
    fault = fault' := by
  -- a second end marker with no start marker before it is not the first that does not fit
  have hapart {j : Nat} (hji : j < i) (hj : MarkerAt endMarker lines j) :
      ¬ ∀ k < i, ¬ MarkerAt startMarker lines k := fun hnone =>
    hfirst j hji _ (.endWithoutStart hj fun k hk => hnone k (by omega))
  cases h with
  | repeatedStart hi =>
    cases h' with
    | repeatedStart => rfl
    | repeatedEnd hi' => exact absurd hi' hi.not_end
    | endWithoutStart hi' => exact absurd hi' hi.not_end
  | repeatedEnd hi hlt hj =>
    cases h' with
    | repeatedStart hi' => exact absurd hi hi'.not_end
    | repeatedEnd => rfl
    | endWithoutStart _ hnone => exact absurd hnone (hapart hlt hj)
  | endWithoutStart hi hnone =>
    cases h' with
    | repeatedStart hi' => exact absurd hi hi'.not_end
    | repeatedEnd _ hlt hj => exact absurd hnone (hapart hlt hj)
    | endWithoutStart => rfl

/-- Only one fault is reported. -/
lemma Reported.unique {fault fault' : FaultyMarker} (h : Reported lines fault)
    (h' : Reported lines fault') : fault = fault' := by
  have halone {i j : Nat} {other : MarkerFault} (hj : Misplaced lines j other)
      (hstart : ∀ k, MarkerAt startMarker lines k ↔ k = i)
      (hstop : ∀ k, ¬ MarkerAt endMarker lines k) : False :=
    not_misplaced_of_order hstart (fun k _ hk => absurd hk (hstop k))
      (fun k hk => absurd hk (hstop k)) hj
  cases h with
  | @first i _ h hfirst =>
    cases h' with
    | @first j _ h' hfirst' =>
      obtain rfl : i = j := by
        rcases Nat.lt_trichotomy i j with hlt | rfl | hgt
        · exact absurd h (hfirst' i hlt _)
        · rfl
        · exact absurd h' (hfirst j hgt _)
      rw [h.unique h' hfirst]
    | alone hstart hstop => exact (halone h hstart hstop).elim
  | @alone i hstart hstop =>
    cases h' with
    | first h' => exact (halone h' hstart hstop).elim
    | @alone j hstart' =>
      rw [(hstart' i).mp ((hstart i).mpr rfl)]

/-- With a fault there is a marker, and no region. -/
lemma Reported.not_answer {fault : FaultyMarker} (h : Reported lines fault) {found : Option Region} :
    ¬ Answer lines (.ok found) := by
  have hmarker : ∃ i, MarkerAt startMarker lines i ∨ MarkerAt endMarker lines i := by
    cases h with
    | first h => exact ⟨_, h.exists_marker⟩
    | @alone i hstart => exact ⟨i, .inl ((hstart i).mpr rfl)⟩
  intro hfound
  cases found with
  | none =>
    obtain ⟨hstart, hstop⟩ := unmarked_iff.mp hfound
    obtain ⟨i, hi | hi⟩ := hmarker
    · exact hstart i hi
    · exact hstop i hi
  | some r =>
    obtain ⟨hstart, hstop, hlt⟩ := hfound
    cases h with
    | first h =>
      refine not_misplaced_of_order hstart (fun i j hi hj => ?_) (fun i hi => ?_) h
      · rw [(hstop i).mp hi, (hstop j).mp hj]
      · rwa [(hstop i).mp hi]
    | alone _ hnone => exact hnone r.stop ((hstop _).mpr rfl)

/-- **There is only one answer for some lines.** -/
theorem Answer.unique {answer answer' : Except FaultyMarker (Option Region)}
    (h : Answer lines answer) (h' : Answer lines answer') : answer = answer' := by
  -- with a region there are markers
  have hsome {r : Region} (hr : Marks lines r) (hnone : Unmarked lines) : False :=
    (unmarked_iff.mp hnone).1 r.start ((hr.start_iff _).mpr rfl)
  match answer, answer', h, h' with
  | .error _, .error _, h, h' => rw [Reported.unique h h']
  | .error _, .ok _, h, h' => exact (Reported.not_answer h h').elim
  | .ok _, .error _, h, h' => exact (Reported.not_answer h' h).elim
  | .ok none, .ok none, _, _ => rfl
  | .ok none, .ok (some _), h, h' => exact (hsome h' h).elim
  | .ok (some _), .ok none, h, h' => exact (hsome h h').elim
  | .ok (some ⟨start, stop⟩), .ok (some ⟨start', stop'⟩), h, h' =>
    obtain rfl : start = start' := (h'.start_iff _).mp ((h.start_iff _).mpr rfl)
    obtain rfl : stop = stop' := (h'.stop_iff _).mp ((h.stop_iff _).mpr rfl)
    rfl

/-! ## The search -/

/-- What the search keeps of the lines behind it: the places of their markers, which fit. -/
structure Seen (before : List String) (start stop : Option Nat) : Prop where
  start_iff : ∀ i, MarkerAt startMarker before i ↔ start = some i
  stop_iff : ∀ i, MarkerAt endMarker before i ↔ stop = some i
  order : ∀ j, stop = some j → ∃ i < j, start = some i

namespace Seen

variable {start stop : Option Nat} {fault : MarkerFault}

lemma nil : Seen [] none none where
  start_iff i := iff_of_false not_markerAt_nil (by simp)
  stop_iff i := iff_of_false not_markerAt_nil (by simp)
  order j hj := by cases hj

/-- All markers behind the search fit. -/
lemma not_misplaced (h : Seen before start stop) (hi : i < before.length) :
    ¬ Misplaced (before ++ rest) i fault := by
  rintro (⟨hi', hlt, hj⟩ | ⟨hi', hlt, hj⟩ | ⟨hi', hnone⟩)
  · rw [markerAt_append_iff (by omega), h.start_iff] at hi' hj
    have := Option.some.inj (hi'.symm.trans hj)
    omega
  · rw [markerAt_append_iff (by omega), h.stop_iff] at hi' hj
    have := Option.some.inj (hi'.symm.trans hj)
    omega
  · rw [markerAt_append_iff hi, h.stop_iff] at hi'
    obtain ⟨j, hlt, hj⟩ := h.order i hi'
    refine hnone j hlt ?_
    rw [markerAt_append_iff (by omega), h.start_iff]
    exact hj

/-- The marker in front of the search is reported if it does not fit. -/
lemma reported (h : Seen before start stop) (hline : Misplaced (before ++ rest) before.length fault) :
    Reported (before ++ rest) ⟨before.length + 1, fault⟩ :=
  .first hline fun _ hj _ => h.not_misplaced hj

/-- One more line that is no marker. -/
lemma concat (h : Seen before start stop) (hstart : trim line ≠ startMarker)
    (hend : trim line ≠ endMarker) : Seen (before ++ [line]) start stop where
  start_iff i := by simp [markerAt_concat_iff, hstart, h.start_iff]
  stop_iff i := by simp [markerAt_concat_iff, hend, h.stop_iff]
  order := h.order

/-- One more line that is the first start marker. -/
lemma concat_start (h : Seen before none stop) (hstart : trim line = startMarker) :
    Seen (before ++ [line]) (some before.length) stop where
  start_iff i := by simp [markerAt_concat_iff, hstart, h.start_iff, eq_comm]
  stop_iff i := by simp [markerAt_concat_iff, hstart, start_ne_end, h.stop_iff]
  order j hj := by
    obtain ⟨i, -, hi⟩ := h.order j hj
    cases hi

/-- One more line that is the first end marker, after a start marker. -/
lemma concat_end {i : Nat} (h : Seen before (some i) none) (hend : trim line = endMarker) :
    Seen (before ++ [line]) (some i) (some before.length) where
  start_iff j := by simp [markerAt_concat_iff, hend, start_ne_end.symm, h.start_iff]
  stop_iff j := by simp [markerAt_concat_iff, hend, h.stop_iff, eq_comm]
  order j hj := by
    obtain rfl := Option.some.inj hj
    exact ⟨i, ((h.start_iff i).mpr rfl).lt_length, rfl⟩

/-- **What the search answers from some line on is right for all lines**, by induction on the lines
in front of it. -/
theorem answer_scan (h : Seen before start stop) (lines : List String) :
    Answer (before ++ lines) (scan before.length start stop lines) := by
  induction lines generalizing before start stop with
  | nil =>
    rw [List.append_nil]
    match start, stop with
    | none, none =>
      exact unmarked_iff.mpr ⟨fun i hi => (by cases (h.start_iff i).mp hi),
        fun i hi => by cases (h.stop_iff i).mp hi⟩
    | none, some j =>
      obtain ⟨i, -, hi⟩ := h.order j rfl
      cases hi
    | some i, none =>
      refine .alone (fun j => ?_) fun j hj => by cases (h.stop_iff j).mp hj
      rw [h.start_iff, Option.some.injEq, eq_comm]
    | some i, some j =>
      obtain ⟨i', hlt, hi'⟩ := h.order j rfl
      obtain rfl := Option.some.inj hi'
      refine ⟨fun k => ?_, fun k => ?_, hlt⟩
      · rw [h.start_iff, Option.some.injEq, eq_comm]
      · rw [h.stop_iff, Option.some.injEq, eq_comm]
  | cons line rest ih =>
    have hnext {start stop : Option Nat} (h : Seen (before ++ [line]) start stop) :
        Answer (before ++ line :: rest) (scan (before.length + 1) start stop rest) := by
      simpa using ih h
    have hbefore {marker : String} {j : Nat} (hj : MarkerAt marker before j) :
        MarkerAt marker (before ++ line :: rest) j := (markerAt_append_iff hj.lt_length).mpr hj
    unfold scan
    by_cases hstart : trim line = startMarker
    · simp only [hstart, if_true]
      have hline : MarkerAt startMarker (before ++ line :: rest) before.length :=
        markerAt_length_iff.mpr hstart
      cases start with
      | none => exact hnext (h.concat_start hstart)
      | some i =>
        have hi : MarkerAt startMarker before i := (h.start_iff i).mpr rfl
        exact h.reported (.repeatedStart hline hi.lt_length (hbefore hi))
    · simp only [if_neg hstart]
      by_cases hend : trim line = endMarker
      · simp only [hend, if_true]
        have hline : MarkerAt endMarker (before ++ line :: rest) before.length :=
          markerAt_length_iff.mpr hend
        match start, stop with
        | _, some j =>
          have hj : MarkerAt endMarker before j := (h.stop_iff j).mpr rfl
          exact h.reported (.repeatedEnd hline hj.lt_length (hbefore hj))
        | none, none =>
          refine h.reported (.endWithoutStart hline fun j hlt hj => ?_)
          rw [markerAt_append_iff hlt, h.start_iff] at hj
          cases hj
        | some i, none => exact hnext (h.concat_end hend)
      · simp only [if_neg hend]
        exact hnext (h.concat hstart hend)

end Seen

/-- **A search gives the one answer that there is.** -/
theorem find_eq_iff {answer : Except FaultyMarker (Option Region)} :
    find lines = answer ↔ Answer lines answer := by
  have hanswer : Answer lines (find lines) := Seen.nil.answer_scan lines
  exact ⟨fun h => h ▸ hanswer, hanswer.unique⟩

/-! ## The region that is found -/

namespace Marks

variable {r : Region}

lemma stop_lt_length (h : Marks lines r) : r.stop < lines.length :=
  ((h.stop_iff _).mpr rfl).lt_length

/-- The body is what is left between the lines up to the start marker and those from the end marker
on. -/
lemma append_body (h : Marks lines r) :
    lines.take (r.start + 1) ++ r.body lines ++ lines.drop r.stop = lines := by
  have hlt := h.start_lt_stop
  have hfirst : lines.take (r.start + 1) = (lines.take r.stop).take (r.start + 1) := by
    rw [List.take_take, Nat.min_eq_left hlt]
  rw [body, hfirst, List.take_append_drop, List.take_append_drop]

/-- A line of the region is a marker, or it has the start marker before it and the end marker after
it. -/
lemma containsLine_iff (h : Marks lines r) (n : Nat) :
    r.containsLine n = true ↔ ∃ i, n = i + 1 ∧
      (MarkerAt startMarker lines i ∨ MarkerAt endMarker lines i ∨
        ∃ s e, MarkerAt startMarker lines s ∧ MarkerAt endMarker lines e ∧ s < i ∧ i < e) := by
  have hlt := h.start_lt_stop
  simp only [containsLine, Bool.and_eq_true, decide_eq_true_eq, h.start_iff, h.stop_iff]
  constructor
  · rintro ⟨hstart, hstop⟩
    refine ⟨n - 1, by omega, ?_⟩
    by_cases hfirst : n - 1 = r.start
    · exact .inl hfirst
    by_cases hlast : n - 1 = r.stop
    · exact .inr (.inl hlast)
    exact .inr (.inr ⟨_, _, rfl, rfl, by omega, by omega⟩)
  · rintro ⟨i, rfl, rfl | rfl | ⟨_, _, rfl, rfl, hs, he⟩⟩ <;> omega

end Marks

/-- **The search for markers is exact.** There is no region if no line is a marker. There is one
exactly if there is one start marker and, behind it, one end marker; it is where they stand, its body
is what is between them, and its lines are the markers and the lines between them. All else is a
fault: that of the first marker that does not fit, or of a start marker that is the only marker. -/
theorem find_exact (lines : List String) :
    (find lines = .ok none ↔ Unmarked lines) ∧
    (∀ r, find lines = .ok (some r) ↔ Marks lines r) ∧
    (∀ r, find lines = .ok (some r) →
      r.start < r.stop ∧ r.stop < lines.length ∧
      lines.take (r.start + 1) ++ r.body lines ++ lines.drop r.stop = lines ∧
      ∀ n, r.containsLine n = true ↔ ∃ i, n = i + 1 ∧
        (MarkerAt startMarker lines i ∨ MarkerAt endMarker lines i ∨
          ∃ s e, MarkerAt startMarker lines s ∧ MarkerAt endMarker lines e ∧ s < i ∧ i < e)) ∧
    ∀ fault, find lines = .error fault ↔ Reported lines fault := by
  refine ⟨find_eq_iff, fun r => find_eq_iff, fun r h => ?_, fun fault => find_eq_iff⟩
  have hmarks : Marks lines r := find_eq_iff.mp h
  exact ⟨hmarks.start_lt_stop, hmarks.stop_lt_length, hmarks.append_body, hmarks.containsLine_iff⟩

/-- A region with one line in it, below another line. -/
theorem find_exact_one_line :
    find ["struct A;", startMarker, "impl A \x7b\x7d", " " ++ endMarker, "fn f() \x7b\x7d"] =
        .ok (some ⟨1, 3⟩) ∧
      Marks ["struct A;", startMarker, "impl A \x7b\x7d", " " ++ endMarker, "fn f() \x7b\x7d"] ⟨1, 3⟩ ∧
      (⟨1, 3⟩ : Region).stop < 5 := by
  have hfind : find ["struct A;", startMarker, "impl A \x7b\x7d", " " ++ endMarker,
      "fn f() \x7b\x7d"] = .ok (some ⟨1, 3⟩) := by decide +kernel
  obtain ⟨-, hmarks, hbounds, -⟩ := find_exact ["struct A;", startMarker, "impl A \x7b\x7d",
    " " ++ endMarker, "fn f() \x7b\x7d"]
  exact ⟨hfind, (hmarks _).mp hfind, (hbounds _ hfind).2.1⟩

end Beans.Region
