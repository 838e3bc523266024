/-!
# Fields

Lists of values by name, in which every name occurs once.

## Main definitions

* `putField` — stores a value in its place, or at the end under a new name.
* `putSorted` — stores a value at the place of its name in the order of names.
* `eraseField` — removes a value.
-/

set_option autoImplicit false

namespace Beans

variable {α : Type}

/-- The fields with a value in the place of its name; a new name comes last. -/
def putField (name : String) (value : α) : List (String × α) → List (String × α)
  | [] => [(name, value)]
  | (n, v) :: rest => if n = name then (n, value) :: rest else (n, v) :: putField name value rest

/-- The fields with a value at the place of its name in the order of names. -/
def putSorted (name : String) (value : α) : List (String × α) → List (String × α)
  | [] => [(name, value)]
  | (n, v) :: rest =>
    if n = name then (n, value) :: rest
    else if name < n then (name, value) :: (n, v) :: rest
    else (n, v) :: putSorted name value rest

/-- The fields without a name. -/
def eraseField (name : String) (fields : List (String × α)) : List (String × α) :=
  fields.filter fun f => f.1 != name

/-- The value of a name that was just stored. -/
theorem lookup_putField (name : String) (value : α) (fields : List (String × α)) :
    (putField name value fields).lookup name = some value := by
  induction fields with
  | nil => simp [putField]
  | cons f rest ih =>
    obtain ⟨n, v⟩ := f
    by_cases h : n = name
    · simp [putField, h]
    · have hn : (name == n) = false := beq_eq_false_iff_ne.mpr (Ne.symm h)
      simp [putField, h, List.lookup_cons, hn, ih]

/-- Storing a value leaves the others alone. -/
theorem lookup_putField_of_ne {name other : String} (h : other ≠ name) (value : α)
    (fields : List (String × α)) :
    (putField name value fields).lookup other = fields.lookup other := by
  induction fields with
  | nil => simp [putField, List.lookup_cons, beq_eq_false_iff_ne.mpr h]
  | cons f rest ih =>
    obtain ⟨n, v⟩ := f
    by_cases hn : n = name
    · subst hn
      simp [putField, List.lookup_cons, beq_eq_false_iff_ne.mpr h]
    · simp only [putField, hn, if_false, List.lookup_cons, ih]

end Beans
