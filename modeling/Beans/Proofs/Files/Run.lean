import Mathlib.Data.List.Pairwise
import Mathlib.Data.List.Perm.Basic
import Mathlib.Data.List.TakeWhile
import Mathlib.Tactic.Common
import Beans.Files.Run
import Beans.Proofs.Files.Places

/-!
# Runs over files

What a run makes of a file is said by the text that the file had before the run, as long as no two
of the paths lead to one file. So a dry run foretells the run that writes, and the order of the files
does not matter. Both end early if the program stops in a file.

## Main definitions

* `Beans.Files.FileSystem.result` — what the text of a file becomes.
* `Beans.Files.FileSystem.settled` — the files after one is regenerated.
* `Beans.Files.FileSystem.reached` — the paths of a run before the program stops.
* `Beans.Files.Foretold` — what a dry run tells of the run that writes.

## Main results

* `Beans.Files.run_regenerateFile` — what is done for one file.
* `Beans.Files.run_regenerateFrom` — what is done for several.
* `Beans.Files.dryRun_foretells` — a dry run foretells the run that writes.
-/

set_option autoImplicit false

open List

namespace Beans

/-- What becomes of a file whose text becomes this. -/
def Regenerated.outcome : Regenerated → Files.FileOutcome
  | .noBean => .noBean
  | .upToDate => .upToDate
  | .rewritten _ => .rewritten
  | .stopped => .stopped

namespace Files

/-! ## One file -/

namespace FileSystem

/-- What the text of a file becomes, or why it is left as it is. -/
def result (fs : FileSystem) (s : Settings) (path : String) : Except RunFault Regenerated :=
  match fs.read path with
  | .error fault => .error (.access path fault)
  | .ok text => (regenerate s text).mapError (RunFault.source path)

/-- What becomes of a file. -/
def outcome (fs : FileSystem) (s : Settings) (path : String) : Except RunFault FileOutcome :=
  (fs.result s path).map Regenerated.outcome

/-- The files after one of them is regenerated. -/
def settled (fs : FileSystem) (s : Settings) (path : String) : FileSystem :=
  match fs.place path, fs.result s path with
  | .ok place, .ok (.rewritten fresh) => fs.put place fresh
  | _, _ => fs

variable {fs : FileSystem} {s : Settings} {path path' fresh : String} {place : List String}

/-- A file is rewritten if it can be read and its text changes. -/
lemma result_eq_rewritten_iff : fs.result s path = .ok (.rewritten fresh) ↔
    ∃ text, fs.read path = .ok text ∧ regenerate s text = .ok (.rewritten fresh) := by
  rw [result]
  cases fs.read path with
  | error fault => simp
  | ok text => cases hr : regenerate s text <;> simp [Except.mapError, hr]

/-- The program stops in a file if it can be read and its text stops the program. -/
lemma result_eq_stopped_iff : fs.result s path = .ok .stopped ↔
    ∃ text, fs.read path = .ok text ∧ regenerate s text = .ok .stopped := by
  rw [result]
  cases fs.read path with
  | error fault => simp
  | ok text => cases hr : regenerate s text <;> simp [Except.mapError, hr]

/-- The program stops in a file if its text stops the program. -/
lemma outcome_eq_stopped_iff : fs.outcome s path = .ok .stopped ↔ fs.result s path = .ok .stopped := by
  rw [outcome]
  cases fs.result s path with
  | error fault => simp [Except.map]
  | ok r => cases r <;> simp [Except.map, Regenerated.outcome]

/-- A rewritten file gets its fresh text. -/
lemma settled_of_rewritten (hresult : fs.result s path = .ok (.rewritten fresh))
    (hplace : fs.place path = .ok place) : fs.settled s path = fs.put place fresh := by
  rw [settled, hresult, hplace]

/-- Other files stay. -/
lemma settled_of_not_rewritten (h : ∀ fresh, fs.result s path ≠ .ok (.rewritten fresh)) :
    fs.settled s path = fs := by
  rw [settled]
  split
  · exact absurd ‹_› (h _)
  · rfl

/-- Either nothing changes, or a file that can be read gets its fresh text. -/
lemma settled_cases (fs : FileSystem) (s : Settings) (path : String) : fs.settled s path = fs ∨
    ∃ place text fresh, fs.place path = .ok place ∧ fs.read path = .ok text ∧
      regenerate s text = .ok (.rewritten fresh) ∧ fs.settled s path = fs.put place fresh := by
  by_cases h : ∃ fresh, fs.result s path = .ok (.rewritten fresh)
  · obtain ⟨fresh, hresult⟩ := h
    obtain ⟨text, hread, hfresh⟩ := result_eq_rewritten_iff.mp hresult
    obtain ⟨place, hplace, -⟩ := read_eq_ok_iff.mp hread
    exact .inr ⟨place, text, fresh, hplace, hread, hfresh, settled_of_rewritten hresult hplace⟩
  · exact .inl (settled_of_not_rewritten (not_exists.mp h))

/-- Paths lead to the same places. -/
lemma place_settled : (fs.settled s path).place path' = fs.place path' := by
  rcases settled_cases fs s path with h | ⟨place, text, fresh, -, -, -, h⟩ <;> rw [h]
  exact place_put

/-- Another file is read as before. -/
lemma read_settled_of_apart (h : fs.Apart path path') :
    (fs.settled s path).read path' = fs.read path' := by
  rcases settled_cases fs s path with h' | ⟨place, text, fresh, hplace, -, -, h'⟩ <;> rw [h']
  exact read_put_of_ne (h place hplace)

/-- What the text of another file becomes is as before. -/
lemma result_settled_of_apart (h : fs.Apart path path') :
    (fs.settled s path).result s path' = fs.result s path' := by
  rw [result, result, read_settled_of_apart h]

/-- What is read from a file once it is regenerated: its fresh text, or what was read before. -/
def readFresh (fs : FileSystem) (s : Settings) (path : String) : Except FileFault String :=
  match fs.result s path with
  | .ok (.rewritten fresh) => .ok fresh
  | _ => fs.read path

/-- A rewritten file has its fresh text. -/
lemma read_settled_self : (fs.settled s path).read path = fs.readFresh s path := by
  rw [readFresh]
  split
  case h_1 fresh hresult =>
    obtain ⟨text, hread, -⟩ := result_eq_rewritten_iff.mp hresult
    obtain ⟨place, hplace, -⟩ := read_eq_ok_iff.mp hread
    rw [settled_of_rewritten hresult hplace]
    exact read_put_self hread hplace
  case h_2 h => rw [settled_of_not_rewritten fun fresh hresult => h fresh hresult]

/-- What another file will be is as before. -/
lemma readFresh_settled_of_apart (h : fs.Apart path path') :
    (fs.settled s path).readFresh s path' = fs.readFresh s path' := by
  rw [readFresh, readFresh, result_settled_of_apart h, read_settled_of_apart h]

/-- A text changes only in a file that is rewritten. -/
lemma text?_settled_of_ne (h : (fs.settled s path).text? place ≠ fs.text? place) :
    fs.place path = .ok place ∧ ∃ fresh, fs.result s path = .ok (.rewritten fresh) := by
  rcases settled_cases fs s path with h' | ⟨q, text, fresh, hplace, hread, hfresh, h'⟩
  · exact absurd (congrArg (text? · place) h') h
  · rw [h', text?_put] at h
    by_cases hq : place = q
    · exact ⟨hq ▸ hplace, fresh, result_eq_rewritten_iff.mpr ⟨text, hread, hfresh⟩⟩
    · simp [hq] at h

end FileSystem

open FileSystem

variable {fs : FileSystem} {s : Settings} {dry : Bool} {path : String} {paths : List String}

/-- A computation of two steps goes on with the result and the state of the first. -/
lemma run_bind {σ α β : Type} {first : StateM σ α} {second : α → StateM σ β} {before after : σ} {a : α}
    (h : first.run before = (a, after)) : (first >>= second).run before = (second a).run after := by
  rw [StateT.run_bind, h]
  rfl

/-- Reading leaves the files as they are. -/
lemma run_read : (FileSystem.access.read path).run fs = (fs.read path, fs) := rfl

/-- Writing a file that can be read puts the text in it. -/
lemma run_write {place : List String} {text fresh : String} (hread : fs.read path = .ok text)
    (hplace : fs.place path = .ok place) :
    (FileSystem.access.write path fresh).run fs = (.ok (), fs.put place fresh) := by
  have hwrite : fs.write path fresh = .ok (fs.put place fresh) := write_of_read hread hplace
  simp only [FileSystem.access, StateT.run_bind, StateT.run_get, pure_bind, hwrite]
  rfl

/-- **What is done for one file**: its text becomes what it becomes by itself, and in a dry run the
files stay as they are.

**Proof sketch.** By what reading the file gives and what becomes of its text. Only a text that is
rewritten is written back, and not in a dry run. -/
theorem run_regenerateFile : (regenerateFile FileSystem.access s dry path).run fs =
    (fs.outcome s path, if dry then fs else fs.settled s path) := by
  have hstays (h : ∀ fresh, fs.result s path ≠ .ok (.rewritten fresh)) :
      (if dry then fs else fs.settled s path) = fs := by
    rw [settled_of_not_rewritten h, ite_self]
  rw [regenerateFile, run_bind run_read, outcome]
  cases hread : fs.read path with
  | error fault =>
    have hresult : fs.result s path = .error (.access path fault) := by rw [result, hread]
    rw [hstays (by simp [hresult]), hresult]
    rfl
  | ok text =>
    have hresult : fs.result s path = (regenerate s text).mapError (RunFault.source path) := by
      rw [result, hread]
    dsimp only
    cases hr : regenerate s text with
    | error fault =>
      rw [hr] at hresult
      rw [hstays (by simp [hresult, Except.mapError]), hresult]
      rfl
    | ok r =>
      rw [hr] at hresult
      cases r with
      | noBean | upToDate | stopped =>
        rw [hstays (by simp [hresult, Except.mapError]), hresult]
        rfl
      | rewritten fresh =>
        obtain ⟨place, hplace, -⟩ := read_eq_ok_iff.mp hread
        rw [settled_of_rewritten hresult hplace, hresult]
        cases dry with
        | true => rfl
        | false =>
          dsimp only
          rw [if_neg Bool.false_ne_true, run_bind (run_write hread hplace)]
          rfl

/-! ## Several files -/

namespace FileSystem

/-- The files after some of them are regenerated, one after the other. -/
def settledAll (fs : FileSystem) (s : Settings) (paths : List String) : FileSystem :=
  paths.foldl (fun fs path => fs.settled s path) fs

/-- The paths of a run before the program stops. -/
def reached (fs : FileSystem) (s : Settings) (paths : List String) : List String :=
  paths.takeWhile fun path => fs.outcome s path != .ok .stopped

/-- How far a run gets is said by what becomes of its files. -/
lemma reached_congr {fs' : FileSystem}
    (h : ∀ path ∈ paths, fs.outcome s path = fs'.outcome s path) :
    fs.reached s paths = fs'.reached s paths := by
  induction paths with
  | nil => rfl
  | cons path rest ih =>
    obtain ⟨hpath, hrest⟩ := forall_mem_cons.mp h
    have hrest' := ih hrest
    rw [reached, reached] at hrest' ⊢
    rw [takeWhile_cons, takeWhile_cons, hpath, hrest']

/-- Paths lead to the same places. -/
lemma place_settledAll : (fs.settledAll s paths).place path = fs.place path := by
  induction paths generalizing fs with
  | nil => rfl
  | cons first rest ih => exact ih.trans place_settled

/-- What is apart stays apart. -/
lemma apart_settled (s : Settings) (first : String) {path' : String} (h : fs.Apart path path') :
    (fs.settled s first).Apart path path' := by
  intro place hplace hplace'
  rw [place_settled] at hplace hplace'
  exact h place hplace hplace'

/-- A file is read as before if none of the paths leads to it. -/
lemma read_settledAll_of_apart (h : ∀ first ∈ paths, fs.Apart first path) :
    (fs.settledAll s paths).read path = fs.read path := by
  induction paths generalizing fs with
  | nil => rfl
  | cons first rest ih =>
    obtain ⟨hfirst, hrest⟩ := forall_mem_cons.mp h
    have hread := ih fun next hnext => apart_settled s first (hrest next hnext)
    exact hread.trans (read_settled_of_apart hfirst)

/-- A file is read as if it alone had been regenerated. -/
lemma read_settledAll_of_mem (hapart : paths.Pairwise fs.Apart) (hpath : path ∈ paths) :
    (fs.settledAll s paths).read path = fs.readFresh s path := by
  induction paths generalizing fs with
  | nil => cases hpath
  | cons first rest ih =>
    obtain ⟨hfirst, hrest⟩ := pairwise_cons.mp hapart
    rcases mem_cons.mp hpath with rfl | hpath
    · have hread := read_settledAll_of_apart (s := s) fun next hnext =>
        apart_settled s path (hfirst next hnext).symm
      exact hread.trans read_settled_self
    · have hread := ih (hrest.imp (apart_settled s first)) hpath
      exact hread.trans (readFresh_settled_of_apart (hfirst path hpath))

/-- A text changes only in a file that is rewritten. -/
lemma text?_settledAll_of_ne (hapart : paths.Pairwise fs.Apart) {place : List String}
    (h : (fs.settledAll s paths).text? place ≠ fs.text? place) :
    ∃ path ∈ paths, fs.place path = .ok place ∧ ∃ fresh, fs.result s path = .ok (.rewritten fresh) := by
  induction paths generalizing fs with
  | nil => exact absurd rfl h
  | cons first rest ih =>
    obtain ⟨hfirst, hrest⟩ := pairwise_cons.mp hapart
    by_cases hne : (fs.settled s first).text? place = fs.text? place
    · have hlater : ((fs.settled s first).settledAll s rest).text? place ≠
          (fs.settled s first).text? place := by
        rw [hne]
        exact h
      obtain ⟨path, hpath, hplace, fresh, hresult⟩ :=
        ih (hrest.imp (apart_settled s first)) hlater
      rw [place_settled] at hplace
      rw [result_settled_of_apart (hfirst path hpath)] at hresult
      exact ⟨path, mem_cons_of_mem _ hpath, hplace, fresh, hresult⟩
    · obtain ⟨hplace, fresh, hresult⟩ := text?_settled_of_ne hne
      exact ⟨first, mem_cons_self, hplace, fresh, hresult⟩

/-- A rewritten file has its fresh text in the end. -/
lemma text?_settledAll_of_mem {place : List String} {fresh : String} (hapart : paths.Pairwise fs.Apart)
    (hpath : path ∈ paths) (hplace : fs.place path = .ok place)
    (hresult : fs.result s path = .ok (.rewritten fresh)) :
    (fs.settledAll s paths).text? place = some fresh := by
  have hread := read_settledAll_of_mem (s := s) hapart hpath
  rw [readFresh, hresult] at hread
  obtain ⟨place', hplace', htext, -⟩ := read_eq_ok_iff.mp hread
  rw [place_settledAll, hplace] at hplace'
  exact Except.ok.inj hplace' ▸ htext

/-- The order of the files does not matter. -/
lemma text?_settledAll_perm {paths' : List String} {place : List String} (hperm : paths ~ paths')
    (hapart : paths.Pairwise fs.Apart) :
    (fs.settledAll s paths').text? place = (fs.settledAll s paths).text? place := by
  have hapart' : paths'.Pairwise fs.Apart := hperm.pairwise hapart Apart.symm
  -- either one of the paths leads to the place and is rewritten, in both orders, or none is
  by_cases h : ∃ path ∈ paths, fs.place path = .ok place ∧
      ∃ fresh, fs.result s path = .ok (.rewritten fresh)
  · obtain ⟨path, hpath, hplace, fresh, hresult⟩ := h
    rw [text?_settledAll_of_mem hapart hpath hplace hresult,
      text?_settledAll_of_mem hapart' (hperm.mem_iff.mp hpath) hplace hresult]
  · have hold : (fs.settledAll s paths).text? place = fs.text? place := by
      by_contra hne
      exact h (text?_settledAll_of_ne hapart hne)
    have hold' : (fs.settledAll s paths').text? place = fs.text? place := by
      by_contra hne
      obtain ⟨path, hpath, hrest⟩ := text?_settledAll_of_ne hapart' hne
      exact h ⟨path, hperm.mem_iff.mpr hpath, hrest⟩
    rw [hold, hold']

end FileSystem

/-! ## Summaries -/

/-- The fault of a file that failed. -/
def fault? : Except RunFault FileOutcome → Option RunFault
  | .error fault => some fault
  | .ok _ => none

/-- The summary of the outcomes of some files, in none of which the program stops: each is counted by
itself. -/
def Summary.counting (outcomes : List (Except RunFault FileOutcome)) : Summary where
  processed := outcomes.countP fun o => o == .ok .upToDate || o == .ok .rewritten
  changed := outcomes.countP fun o => o == .ok .rewritten
  faults := outcomes.filterMap fault?

/-- The summary with some more outcomes, to the end or until the program stops. -/
def Summary.addAll (sum : Summary) : List (Except RunFault FileOutcome) → Summary
  | [] => sum
  | o :: rest => if (sum.add o).stopped then sum.add o else (sum.add o).addAll rest

namespace Summary

variable {sum : Summary} {o : Except RunFault FileOutcome} {os : List (Except RunFault FileOutcome)}

/-- A summary ends with the outcome in which the program stops. -/
lemma stopped_add (h : sum.stopped = false) : (sum.add o).stopped = (o == .ok .stopped) := by
  cases o with
  | error fault => exact h
  | ok o => cases o <;> first | exact h | rfl

/-- **A summary counts the outcomes before the program stops.** -/
theorem addAll_eq (h : sum.stopped = false) :
    let counted := counting (os.takeWhile (· != .ok .stopped))
    sum.addAll os = ⟨sum.processed + counted.processed, sum.changed + counted.changed,
      sum.faults ++ counted.faults, os.contains (.ok .stopped)⟩ := by
  induction os generalizing sum with
  | nil => simp [addAll, counting, ← h]
  | cons o rest ih =>
    rw [addAll, stopped_add h]
    cases ho : o == .ok .stopped with
    | true =>
      obtain rfl := eq_of_beq ho
      simp [counting, add]
    | false =>
      have hne : o ≠ .ok .stopped := by simpa using ho
      have hreached : (o :: rest).takeWhile (· != .ok .stopped) =
          o :: rest.takeWhile (· != .ok .stopped) := by
        simp [hne]
      have hstopped : (o :: rest).contains (.ok .stopped) = rest.contains (.ok .stopped) := by
        simp [hne.symm]
      rw [if_neg Bool.false_ne_true, ih ((stopped_add h).trans ho), hreached, hstopped]
      cases o with
      | error fault => simp [counting, add, fault?]
      | ok o =>
        cases o with
        | noBean => simp [counting, add, fault?, filterMap_cons]
        | upToDate | rewritten =>
          simp [counting, add, fault?, filterMap_cons, Nat.add_assoc, Nat.add_comm 1]
        | stopped => exact absurd rfl hne

/-- The summary does not depend on the order of the outcomes, but for the order of the faults. -/
lemma counting_perm {os' : List (Except RunFault FileOutcome)} (h : os ~ os') :
    (counting os').processed = (counting os).processed ∧
      (counting os').changed = (counting os).changed ∧
      (counting os').faults ~ (counting os).faults :=
  ⟨(h.countP_eq _).symm, (h.countP_eq _).symm, (h.filterMap _).symm⟩

end Summary

/-! ## Runs -/

/-- **A dry run adds up what becomes of the files** and leaves them as they are. -/
theorem run_regenerateFrom_dry {sum : Summary} :
    (regenerateFrom FileSystem.access s true sum paths).run fs =
      (sum.addAll (paths.map (fs.outcome s)), fs) := by
  induction paths generalizing sum with
  | nil => rfl
  | cons path rest ih =>
    rw [regenerateFrom, run_bind run_regenerateFile, map_cons, Summary.addAll]
    dsimp only
    split
    · rfl
    · exact ih

/-- **A run that writes adds up the same** if no two of the paths lead to one file: what becomes of a
file is said by its text before the run. The induction is on the paths, for any state of the files:
each step leaves the files of the paths after it as they were. -/
theorem run_regenerateFrom {sum : Summary} (hapart : paths.Pairwise fs.Apart)
    (hsum : sum.stopped = false) :
    (regenerateFrom FileSystem.access s false sum paths).run fs =
      (sum.addAll (paths.map (fs.outcome s)), fs.settledAll s (fs.reached s paths)) := by
  induction paths generalizing fs sum with
  | nil => rfl
  | cons path rest ih =>
    obtain ⟨hpath, hrest⟩ := pairwise_cons.mp hapart
    have houtcome (next : String) (hnext : next ∈ rest) :
        (fs.settled s path).outcome s next = fs.outcome s next := by
      rw [outcome, outcome, result_settled_of_apart (hpath next hnext)]
    rw [regenerateFrom, run_bind run_regenerateFile, map_cons, Summary.addAll]
    dsimp only
    rw [Summary.stopped_add hsum]
    cases ho : fs.outcome s path == .ok .stopped with
    | true =>
      -- the file in which the program stops is not written
      have hreached : fs.reached s (path :: rest) = [] := by simp [reached, eq_of_beq ho]
      have hresult : fs.result s path = .ok .stopped := outcome_eq_stopped_iff.mp (eq_of_beq ho)
      rw [hreached, if_neg Bool.false_ne_true, settled_of_not_rewritten (by simp [hresult])]
      rfl
    | false =>
      have hne : fs.outcome s path ≠ .ok .stopped := by simpa using ho
      have hreached : fs.reached s (path :: rest) = path :: (fs.settled s path).reached s rest := by
        rw [reached_congr houtcome]
        simp [reached, hne]
      rw [if_neg Bool.false_ne_true, if_neg Bool.false_ne_true, hreached,
        ih (hrest.imp (apart_settled s path)) ((Summary.stopped_add hsum).trans ho),
        map_congr_left houtcome]
      rfl

/-- What a run that writes reports and leaves behind is said by the files before it. -/
structure Accounts (fs : FileSystem) (s : Settings) (paths : List String)
    (after : Summary × FileSystem) : Prop where
  /-- The program stops if the text of one of the files stops it. -/
  stopped : after.1.stopped = true ↔
    ∃ path ∈ paths, ∃ text, fs.read path = .ok text ∧ regenerate s text = .ok .stopped
  /-- Until then every file is counted by itself, and fails by itself. -/
  counted : after.1 = { Summary.counting ((fs.reached s paths).map (fs.outcome s)) with
    stopped := after.1.stopped }
  /-- Paths lead where they led to. -/
  places : ∀ path, after.2.place path = fs.place path
  /-- Only files that are counted as changed have other texts. -/
  changed : ∀ place, after.2.text? place ≠ fs.text? place →
    ∃ path ∈ fs.reached s paths, fs.place path = .ok place ∧ fs.outcome s path = .ok .rewritten
  /-- Each of them has what its own text becomes. -/
  fresh : ∀ path ∈ fs.reached s paths, ∀ text fresh, fs.read path = .ok text →
    regenerate s text = .ok (.rewritten fresh) → after.2.read path = .ok fresh
  /-- A file that fails is left as it was. -/
  failed : ∀ path ∈ paths, ∀ fault, fs.outcome s path = .error fault →
    after.2.read path = fs.read path

/-- Two runs tell the same and leave the same files, but for the order of the faults. -/
structure SameButOrder (after after' : Summary × FileSystem) : Prop where
  stopped : after'.1.stopped = after.1.stopped
  processed : after'.1.processed = after.1.processed
  changed : after'.1.changed = after.1.changed
  faults : after'.1.faults ~ after.1.faults
  places : ∀ path, after'.2.place path = after.2.place path
  texts : ∀ place, after'.2.text? place = after.2.text? place

/-- What is read from a file of the run afterwards. -/
lemma read_settledAll_reached (hapart : paths.Pairwise fs.Apart) (hpath : path ∈ paths) :
    (fs.settledAll s (fs.reached s paths)).read path =
      if path ∈ fs.reached s paths then fs.readFresh s path else fs.read path := by
  have hreached : fs.reached s paths <+ paths := takeWhile_sublist _
  split
  case isTrue hmem => exact read_settledAll_of_mem (hapart.sublist hreached) hmem
  case isFalse hnot =>
    refine read_settledAll_of_apart fun first hfirst => ?_
    have hne : first ≠ path := fun h => hnot (h ▸ hfirst)
    exact hapart.forall (hreached.subset hfirst) hpath hne

/-- **A run that writes accounts for what it does.** -/
theorem accounts (hapart : paths.Pairwise fs.Apart) :
    Accounts fs s paths ((regenerateFiles FileSystem.access s false paths).run fs) := by
  have hreached : fs.reached s paths <+ paths := takeWhile_sublist _
  rw [regenerateFiles, run_regenerateFrom hapart rfl, Summary.addAll_eq rfl]
  refine ⟨?_, ?_, fun _ => place_settledAll, fun place hplace => ?_,
    fun path hpath text fresh hread hfresh => ?_, fun path hpath fault houtcome => ?_⟩
  · simp only [contains_iff_mem, mem_map, outcome_eq_stopped_iff, result_eq_stopped_iff]
  · have hcounted : (fs.reached s paths).map (fs.outcome s) =
        (paths.map (fs.outcome s)).takeWhile (· != .ok .stopped) := by
      rw [takeWhile_map]
      rfl
    simp [hcounted]
  · obtain ⟨path, hpath, hplace, fresh, hresult⟩ :=
      text?_settledAll_of_ne (hapart.sublist hreached) hplace
    refine ⟨path, hpath, hplace, ?_⟩
    rw [outcome, hresult]
    rfl
  · rw [read_settledAll_of_mem (hapart.sublist hreached) hpath, readFresh,
      result_eq_rewritten_iff.mpr ⟨text, hread, hfresh⟩]
  · have hstays : fs.readFresh s path = fs.read path := by
      rw [readFresh]
      split
      case h_1 fresh hresult =>
        rw [outcome, hresult] at houtcome
        cases houtcome
      case h_2 => rfl
    rw [read_settledAll_reached hapart hpath, hstays, ite_self]

/-- **The order of the files does not matter** to a run in which the program does not stop. -/
theorem sameButOrder {paths' : List String} (hperm : paths ~ paths')
    (hapart : paths.Pairwise fs.Apart) (hgoes : ∀ path ∈ paths, fs.outcome s path ≠ .ok .stopped) :
    SameButOrder ((regenerateFiles FileSystem.access s false paths).run fs)
      ((regenerateFiles FileSystem.access s false paths').run fs) := by
  have hapart' : paths'.Pairwise fs.Apart := hperm.pairwise hapart Apart.symm
  have hgoes' : ∀ path ∈ paths', fs.outcome s path ≠ .ok .stopped := fun path hpath =>
    hgoes path (hperm.mem_iff.mpr hpath)
  have hall {paths : List String} (hgoes : ∀ path ∈ paths, fs.outcome s path ≠ .ok .stopped) :
      fs.reached s paths = paths :=
    takeWhile_eq_self_iff.mpr fun path hpath => bne_iff_ne.mpr (hgoes path hpath)
  have houtcomes {paths : List String} (hgoes : ∀ path ∈ paths, fs.outcome s path ≠ .ok .stopped) :
      (paths.map (fs.outcome s)).takeWhile (· != .ok .stopped) = paths.map (fs.outcome s) := by
    refine takeWhile_eq_self_iff.mpr fun o ho => ?_
    obtain ⟨path, hpath, rfl⟩ := mem_map.mp ho
    exact bne_iff_ne.mpr (hgoes path hpath)
  obtain ⟨hprocessed, hchanged, hfaults⟩ := Summary.counting_perm (hperm.map (fs.outcome s))
  rw [regenerateFiles, run_regenerateFrom hapart rfl, Summary.addAll_eq rfl, hall hgoes,
    houtcomes hgoes, regenerateFiles, run_regenerateFrom hapart' rfl, Summary.addAll_eq rfl,
    hall hgoes', houtcomes hgoes']
  exact {
    stopped := by simp [hperm.mem_iff]
    processed := by simp [hprocessed]
    changed := by simp [hchanged]
    faults := hfaults
    places := fun _ => place_settledAll.trans place_settledAll.symm
    texts := fun _ => text?_settledAll_perm hperm hapart }

/-- **A dry run foretells the run that writes.** Let no two of the paths lead to one file. The dry run
leaves all files as they are, and it reports what the run that writes reports. That run accounts for
what it does, and if the program does not stop in one of the files, then it tells the same and leaves
the same files in any order of the paths. -/
theorem dryRun_foretells (fs : FileSystem) (s : Settings) (paths : List String)
    (hapart : paths.Pairwise fs.Apart) :
    let dry := (regenerateFiles FileSystem.access s true paths).run fs
    let written := (regenerateFiles FileSystem.access s false paths).run fs
    dry.2 = fs ∧ dry.1 = written.1 ∧ Accounts fs s paths written ∧
      (written.1.stopped = false → ∀ paths', paths ~ paths' →
        SameButOrder written ((regenerateFiles FileSystem.access s false paths').run fs)) := by
  intro dry written
  have haccounts : Accounts fs s paths written := accounts hapart
  have hdry : dry = (({} : Summary).addAll (paths.map (fs.outcome s)), fs) := run_regenerateFrom_dry
  have hwritten : written = _ := run_regenerateFrom hapart rfl
  refine ⟨by rw [hdry], by rw [hdry, hwritten], haccounts, fun hstopped paths' hperm => ?_⟩
  refine sameButOrder hperm hapart fun path hpath houtcome => ?_
  have hstops := haccounts.stopped.mpr
    ⟨path, hpath, result_eq_stopped_iff.mp (outcome_eq_stopped_iff.mp houtcome)⟩
  rw [hstops] at hstopped
  cases hstopped

/-- Two files, neither of which can change. -/
def twoFiles : FileSystem where
  entries := [(["a.rs"], some ""), (["b.rs"], some "fn b() \x7b\x7d")]
  unreadable := [(["b.rs"], .other "stream did not contain valid UTF-8")]

/-- A dry run foretells a run over the two files and one that is missing. -/
theorem dryRun_foretells_twoFiles :
    let paths := ["a.rs", "b.rs", "c.rs"]
    let dry := (regenerateFiles FileSystem.access {} true paths).run twoFiles
    let written := (regenerateFiles FileSystem.access {} false paths).run twoFiles
    paths.Pairwise twoFiles.Apart ∧ dry = (written.1, twoFiles) ∧
      written.2.read "b.rs" = twoFiles.read "b.rs" := by
  intro paths dry written
  have hplaces : twoFiles.place "a.rs" = .ok ["a.rs"] ∧ twoFiles.place "b.rs" = .ok ["b.rs"] ∧
      twoFiles.place "c.rs" = .error .missing := by decide
  have hapart : paths.Pairwise twoFiles.Apart := by simp [paths, Apart, hplaces]
  obtain ⟨hfiles, hsummary, haccounts, -⟩ := dryRun_foretells twoFiles {} paths hapart
  have hfault : twoFiles.outcome {} "b.rs" =
      .error (.access "b.rs" (.other "stream did not contain valid UTF-8")) := by decide
  exact ⟨hapart, Prod.ext hsummary hfiles, haccounts.failed "b.rs" (by simp [paths]) _ hfault⟩

end Files

end Beans
