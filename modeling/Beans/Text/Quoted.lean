import Beans.Text.Visible

/-!
# Quoted text

The quoted form of a character and of a text, as a literal of source text: the delimiter and the
backslash are escaped, the common controls have short names, and what cannot be seen is written by
its code point in hexadecimal.
-/

set_option autoImplicit false

namespace Beans.Text

/-- The lower-case hexadecimal digits of a number, without leading zeros. -/
def hexDigits (n : Nat) : List Char := Nat.toDigits 16 n

/-- A character by its code point. -/
def escapeCode (c : Char) : List Char := ['\\', 'u', '{'] ++ hexDigits c.toNat ++ ['}']

/-- The escaped form of a character between the given delimiters. -/
def escapeChar (delimiter : Char) (c : Char) : List Char :=
  if c = '\x00' then ['\\', '0']
  else if c = '\t' then ['\\', 't']
  else if c = '\r' then ['\\', 'r']
  else if c = '\n' then ['\\', 'n']
  else if c = '\\' then ['\\', '\\']
  else if c = delimiter then ['\\', c]
  else if isGraphemeExtend c then escapeCode c
  else if isPrintable c then [c]
  else escapeCode c

/-- A text between double quotes. -/
def quoted (s : String) : String :=
  String.ofList ('"' :: s.toList.flatMap (escapeChar '"') ++ ['"'])

/-- A character between single quotes. -/
def quotedChar (c : Char) : String :=
  String.ofList ('\'' :: escapeChar '\'' c ++ ['\''])

end Beans.Text
