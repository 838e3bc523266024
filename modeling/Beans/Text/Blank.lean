/-!
# Blank characters

White space of every script, and the text functions that look for it: trimming and the test for a
blank text.

## Main results

* `dropBlankEnd_append` — what trimming removes at the end is blank, and all before it is kept.
* `trim_idem` — trimming twice is trimming once.
-/

set_option autoImplicit false

namespace Beans.Text

/-- The characters with the property White_Space. -/
def isBlank (c : Char) : Bool :=
  let n := c.toNat
  (decide (9 ≤ n) && decide (n ≤ 13)) || n == 0x20 || n == 0x85 || n == 0xA0 || n == 0x1680 ||
    (decide (0x2000 ≤ n) && decide (n ≤ 0x200A)) || n == 0x2028 || n == 0x2029 || n == 0x202F ||
    n == 0x205F || n == 0x3000

/-- The characters after the leading blank ones. -/
def dropBlank (cs : List Char) : List Char := cs.dropWhile isBlank

/-- The characters before the trailing blank ones. -/
def dropBlankEnd : List Char → List Char
  | [] => []
  | c :: cs =>
    let rest := dropBlankEnd cs
    if rest.isEmpty && isBlank c then [] else c :: rest

/-- A text without its trailing blank characters. -/
def trimEnd (s : String) : String := String.ofList (dropBlankEnd s.toList)

/-- A text without its leading and trailing blank characters. -/
def trim (s : String) : String := String.ofList (dropBlankEnd (dropBlank s.toList))

/-- A text of blank characters only; the empty text is one. -/
def isBlankText (s : String) : Bool := s.toList.all isBlank

/-- Dropping the trailing blank characters removes a blank tail and keeps all before it. -/
theorem dropBlankEnd_append (cs : List Char) :
    ∃ tail, cs = dropBlankEnd cs ++ tail ∧ ∀ c ∈ tail, isBlank c = true := by
  induction cs with
  | nil => exact ⟨[], rfl, by simp⟩
  | cons c cs ih =>
    obtain ⟨tail, h, hb⟩ := ih
    by_cases hc : (dropBlankEnd cs).isEmpty && isBlank c
    · refine ⟨c :: cs, by simp [dropBlankEnd, hc], ?_⟩
      simp only [Bool.and_eq_true, List.isEmpty_iff] at hc
      intro d hd
      rcases List.mem_cons.1 hd with rfl | hd
      · exact hc.2
      · rw [h, hc.1, List.nil_append] at hd
        exact hb d hd
    · refine ⟨tail, ?_, hb⟩
      simp only [dropBlankEnd, hc]
      simpa using h

/-- Dropping the trailing blank characters twice is dropping them once. -/
theorem dropBlankEnd_idem (cs : List Char) : dropBlankEnd (dropBlankEnd cs) = dropBlankEnd cs := by
  induction cs with
  | nil => rfl
  | cons c cs ih =>
    by_cases hc : ((dropBlankEnd cs).isEmpty && isBlank c) = true
    · simp [dropBlankEnd, hc]
    · simp only [dropBlankEnd, hc, Bool.false_eq_true, if_false, ih]

/-- Dropping the trailing blank characters brings none to the front. -/
theorem dropBlank_dropBlankEnd (cs : List Char) :
    dropBlank (dropBlankEnd (dropBlank cs)) = dropBlankEnd (dropBlank cs) := by
  induction cs with
  | nil => rfl
  | cons c cs ih =>
    cases hc : isBlank c with
    | true => simpa [dropBlank, hc] using ih
    | false => simp [dropBlank, dropBlankEnd, hc]

/-- A trimmed text stays as it is. -/
theorem trim_idem (s : String) : trim (trim s) = trim s := by
  simp only [trim, String.toList_ofList, dropBlank_dropBlankEnd, dropBlankEnd_idem]

end Beans.Text
