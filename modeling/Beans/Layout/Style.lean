import Beans.Text.Lines
import Beans.Text.LowerCase
import Beans.Text.Search

/-!
# Indentation and line endings

The two choices of how generated lines are laid out, read from the words of the command line.
-/

set_option autoImplicit false

namespace Beans.Layout

/-- What one level of nesting is written as. -/
inductive Indent
  | tab
  | spaces (count : Nat)
deriving DecidableEq, Repr

/-- A word that names no indentation or line ending. -/
inductive StyleFault
  | indent (word : String)
  | eol (word : String)
deriving DecidableEq, Repr

/-- The message for an unknown word. -/
def StyleFault.message : StyleFault → String
  | .indent word => s!"invalid indent `{word}`, expected `tab` or a number"
  | .eol word => s!"invalid eol `{word}`, expected lf, crlf, cr or system"

/-- The largest count of a machine word. -/
def wordLimit : Nat := Nat.pow 2 64 - 1

/-- Reads an indentation: the word for a tabulator, or a number of spaces. -/
def Indent.ofWord (word : String) : Except StyleFault Indent :=
  if word = "tab" then .ok .tab
  else match Text.decimalNat? wordLimit word.toList with
    | some count => .ok (.spaces count)
    | none => .error (.indent word)

/-- The text of an indentation for developers. -/
def Indent.debug : Indent → String
  | tab => "Tab"
  | spaces count => "Spaces(" ++ toString count ++ ")"

/-- The text of one level. -/
def Indent.unit : Indent → String
  | .tab => "\t"
  | .spaces count => String.ofList (List.replicate count ' ')

/-- The four spaces of a run without other wishes. -/
instance : Inhabited Indent := ⟨.spaces 4⟩

/-- What ends a generated line. -/
inductive Eol
  | lf
  | crlf
  | cr
  | system
deriving DecidableEq, Repr, Inhabited

/-- The name of a line ending. -/
def Eol.name : Eol → String
  | lf => "Lf"
  | crlf => "Crlf"
  | cr => "Cr"
  | system => "System"

/-- Reads a line ending; the case of the word does not matter. -/
def Eol.ofWord (word : String) : Except StyleFault Eol :=
  let word := Text.lowerCase word
  if word = "lf" then .ok .lf
  else if word = "crlf" then .ok .crlf
  else if word = "cr" then .ok .cr
  else if word = "system" then .ok .system
  else .error (.eol word)

/-- The terminator that an ending stands for; the system's own is the line feed. -/
def Eol.ending : Eol → Text.Ending
  | .lf => .feed
  | .crlf => .returnFeed
  | .cr => .carriage
  | .system => .feed

end Beans.Layout
