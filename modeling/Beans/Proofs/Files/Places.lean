import Mathlib.Tactic.Common
import Beans.Files.Access

/-!
# Places of a file system

A text that is put in a file changes what is read there and nothing else: paths lead to the same
places as before, and at other places the same is found.

## Main definitions

* `Beans.Files.FileSystem.Apart` — two paths do not lead to one place.

## Main results

* `Beans.Files.FileSystem.text?_put` — the texts after a text was put in a file.
* `Beans.Files.FileSystem.place_put` — paths lead to the same places.
* `Beans.Files.FileSystem.read_put_self`, `Beans.Files.FileSystem.read_put_of_ne` — what is read at a
  path then.
-/

set_option autoImplicit false

open List

namespace Beans.Files.FileSystem

variable {fs : FileSystem} {place q : List String} {path text fresh : String}

/-! ## Reading -/

/-- A text is read if the path leads to a file that can be read. -/
lemma read_eq_ok_iff : fs.read path = .ok text ↔
    ∃ place, fs.place path = .ok place ∧ fs.text? place = some text ∧
      fs.unreadable.lookup place = none := by
  rw [read]
  cases fs.place path with
  | error fault => simp
  | ok place =>
    simp only [Except.ok.injEq, exists_eq_left']
    cases fs.text? place with
    | none => simp
    | some text' =>
      cases fs.unreadable.lookup place with
      | none => simp
      | some fault => simp

/-- A file that is read can be written. -/
lemma write_of_read (hread : fs.read path = .ok text) (hplace : fs.place path = .ok place) :
    fs.write path fresh = .ok (fs.put place fresh) := by
  obtain ⟨place', hplace', htext, -⟩ := read_eq_ok_iff.mp hread
  obtain rfl := Except.ok.inj (hplace.symm.trans hplace')
  simp [write, hplace, htext]

/-! ## A text is put in a file -/

/-- The texts after a text was put in a file. -/
theorem text?_put :
    (fs.put place text).text? q = (fs.text? q).map fun old => if q = place then text else old := by
  have hkey : ((fun x => x.1 == q) ∘ fun x : List String × Option String =>
      (x.1, x.2.map fun old => if x.1 = place then text else old)) = fun x => x.1 == q := rfl
  simp only [text?, put, find?_map]
  rw [hkey]
  cases hentry : fs.entries.find? fun x => x.1 == q with
  | none => rfl
  | some entry =>
    obtain rfl : entry.1 = q := by simpa using find?_some hentry
    rfl

/-- Folders stay folders. -/
lemma isFolder_put : (fs.put place text).isFolder q = fs.isFolder q := by
  simp [isFolder, put, any_map, Function.comp_def]

/-- What stands at a place stays. -/
lemma kindAt_put : (fs.put place text).kindAt q = fs.kindAt q := by
  simp [kindAt, isFolder_put, text?_put]

/-- Names lead to the same place. -/
lemma follow_put (names : List String) :
    (fs.put place text).follow q names = fs.follow q names := by
  induction names generalizing q with
  | nil => rfl
  | cons name rest ih => simp only [follow, kindAt_put, ih]

/-- **Paths lead to the same places.** -/
theorem place_put : (fs.put place text).place path = fs.place path := by
  have hcurrent : (fs.put place text).current = fs.current := rfl
  simp only [FileSystem.place, follow_put, kindAt_put, hcurrent]

/-- The file that a text was put in has this text. -/
theorem read_put_self (hread : fs.read path = .ok text) (hplace : fs.place path = .ok place) :
    (fs.put place fresh).read path = .ok fresh := by
  obtain ⟨place', hplace', htext, hfault⟩ := read_eq_ok_iff.mp hread
  obtain rfl := Except.ok.inj (hplace.symm.trans hplace')
  refine read_eq_ok_iff.mpr ⟨place, place_put.trans hplace, ?_, hfault⟩
  simp [text?_put, htext]

/-- Other files are read as before. -/
theorem read_put_of_ne (hplace : fs.place path ≠ .ok place) :
    (fs.put place text).read path = fs.read path := by
  have hfaults : (fs.put place text).unreadable = fs.unreadable := rfl
  rw [read, read, place_put, hfaults]
  cases hq : fs.place path with
  | error fault => rfl
  | ok q =>
    have hne : q ≠ place := fun h => hplace (hq.trans (congrArg _ h))
    dsimp only
    rw [text?_put]
    simp [hne]

/-- Two paths do not lead to one place. -/
def Apart (fs : FileSystem) (path path' : String) : Prop :=
  ∀ place, fs.place path = .ok place → fs.place path' ≠ .ok place

/-- Which of two paths is named first does not matter. -/
lemma Apart.symm {path' : String} (h : fs.Apart path path') : fs.Apart path' path :=
  fun place hplace' hplace => h place hplace hplace'

instance (fs : FileSystem) : Std.Symm fs.Apart := ⟨fun _ _ h => h.symm⟩

end Beans.Files.FileSystem
