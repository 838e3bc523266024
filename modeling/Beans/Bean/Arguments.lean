import Beans.Bean.Fields
import Beans.Value.Typed

/-!
# Arguments of constructors

Values by name that a constructor takes one by one.
-/

set_option autoImplicit false

namespace Beans

/-- Values by name. -/
structure Arguments where
  /-- The values that are left. -/
  values : List (String × Value)

namespace Arguments

/-- Without values. -/
def empty : Arguments := ⟨[]⟩

/-- With a value; it takes the place of an earlier one. -/
def insert (a : Arguments) (name : String) (v : Value) : Arguments := ⟨putField name v a.values⟩

/-- The value of a name. -/
def get? (a : Arguments) (name : String) : Option Value := a.values.lookup name

/-- Without the value of a name. -/
def erase (a : Arguments) (name : String) : Arguments := ⟨eraseField name a.values⟩

/-- The value of a name in the form of a type, and the values without it. Without a value the type
has to take nothing for one. -/
def take (a : Arguments) (t : ValueType) (name : String) : Except BeanError Typed × Arguments :=
  match a.get? name with
  | some v => (t.ofValue v, a.erase name)
  | none => ((t.ofValue .null).mapError fun _ => .validation name "no value supplied", a)

/-- The value of a name in the form of a type, and the values without it. Without a value it is the
default of the type. -/
def takeOrDefault (a : Arguments) (t : ValueType) (name : String) :
    Except BeanError Typed × Arguments :=
  match a.get? name, t.default? with
  | some v, _ => (t.ofValue v, a.erase name)
  | none, some d => (.ok d, a)
  | none, none => a.take t name

end Arguments

end Beans
