import Beans.Text.Identifier
import Beans.Text.Quoted

/-!
# Literals

The written forms of strings, characters and numbers: where a literal ends, which escapes it may
hold, and what a string literal stands for.

## Main definitions

* `scanLiteral` — the literal at the start of a text.
* `unescape` — what the inside of a string literal stands for.
* `wholeValue?`, `placeValue?` — the value of a whole number, and of one that names a place.
* `LiteralKind` — the kinds of literals.
-/

set_option autoImplicit false

namespace Beans.Syntax

open Text

/-- A reader of the start of a text: the characters that it takes and those after them. -/
abbrev Scan := List Char → Option (List Char × List Char)

/-- The characters at the start that satisfy `p`, and those after them. -/
def spanChars (p : Char → Bool) (cs : List Char) : List Char × List Char :=
  (cs.takeWhile p, cs.dropWhile p)

/-- A word of identifier characters. -/
def scanWord : Scan
  | c :: cs =>
    if isIdentifierStart c then
      let (word, rest) := spanChars isIdentifierContinue cs
      some (c :: word, rest)
    else none
  | [] => none

/-- Adds the suffix that directly follows a literal. -/
def withSuffix (taken rest : List Char) : List Char × List Char :=
  match scanWord rest with
  | some (suffix, rest) => (taken ++ suffix, rest)
  | none => (taken, rest)

/-- The value of a hexadecimal digit. -/
def hexValue? (c : Char) : Option Nat :=
  if c.isDigit then some (c.toNat - 48)
  else if 'a' ≤ c ∧ c ≤ 'f' then some (c.toNat - 87)
  else if 'A' ≤ c ∧ c ≤ 'F' then some (c.toNat - 55)
  else none

/-- Which escapes a literal may hold. -/
structure EscapeRule where
  /-- The largest value of a two-digit escape. -/
  byteLimit : Nat
  /-- Whether code points may be given in braces. -/
  codePoints : Bool
  /-- Whether characters above ASCII may stand for themselves. -/
  wide : Bool
  /-- Whether the character with code 0 may occur. -/
  nul : Bool

/-- Text and characters. -/
def textEscapes : EscapeRule := ⟨0x7F, true, true, true⟩

/-- Byte strings. -/
def byteEscapes : EscapeRule := ⟨0xFF, false, false, true⟩

/-- Strings that end in a character with code 0 of their own. -/
def zeroEndedEscapes : EscapeRule := ⟨0xFF, true, true, false⟩

/-- The character of a hexadecimal code in braces. -/
def codePoint? (digits : List Char) : Option Char :=
  let plain := digits.filter (· != '_')
  match digits.head? with
  | none | some '_' => none
  | some _ =>
    if 6 < plain.length then none
    else
      let n := plain.foldl (fun n c => 16 * n + (hexValue? c).getD 0) 0
      if h : n.isValidChar then some (Char.ofNatAux n h) else none

/-- Blank characters that a line continued by a backslash swallows. -/
def isContinuationBlank (c : Char) : Bool := c == ' ' || c == '\t' || c == '\n' || c == '\r'

/-- Whether every carriage return stands before a line feed. -/
def returnsPaired : List Char → Bool
  | [] => true
  | '\r' :: '\n' :: cs => returnsPaired cs
  | '\r' :: _ => false
  | _ :: cs => returnsPaired cs

/-- The text that the inside of a literal stands for, if its escapes are those of `rule`. -/
def unescape (rule : EscapeRule) : List Char → Option (List Char)
  | [] => some []
  | '\\' :: 'n' :: r => (unescape rule r).map ('\n' :: ·)
  | '\\' :: 'r' :: r => (unescape rule r).map ('\r' :: ·)
  | '\\' :: 't' :: r => (unescape rule r).map ('\t' :: ·)
  | '\\' :: '\\' :: r => (unescape rule r).map ('\\' :: ·)
  | '\\' :: '\'' :: r => (unescape rule r).map ('\'' :: ·)
  | '\\' :: '"' :: r => (unescape rule r).map ('"' :: ·)
  | '\\' :: '0' :: r => if rule.nul then (unescape rule r).map (Char.ofNat 0 :: ·) else none
  | '\\' :: 'x' :: a :: b :: r => do
    let n := 16 * (← hexValue? a) + (← hexValue? b)
    if n ≤ rule.byteLimit ∧ (rule.nul ∨ 0 < n) then (unescape rule r).map (Char.ofNat n :: ·)
    else none
  | '\\' :: 'u' :: '{' :: r =>
    if rule.codePoints then do
      let digits := r.takeWhile fun c => c == '_' || (hexValue? c).isSome
      let c ← codePoint? digits
      match h : r.dropWhile fun c => c == '_' || (hexValue? c).isSome with
      | '}' :: r' =>
        have : r'.length < r.length := by
          have :=
            (List.dropWhile_suffix (l := r) fun c => c == '_' || (hexValue? c).isSome).length_le
          rw [h] at this
          simp only [List.length_cons] at this
          omega
        if rule.nul || c != Char.ofNat 0 then (unescape rule r').map (c :: ·) else none
      | _ => none
    else none
  | '\\' :: '\n' :: r =>
    have : (r.dropWhile isContinuationBlank).length ≤ r.length :=
      (List.dropWhile_suffix isContinuationBlank).length_le
    if returnsPaired (r.takeWhile isContinuationBlank) then
      unescape rule (r.dropWhile isContinuationBlank)
    else none
  | '\\' :: '\r' :: '\n' :: r =>
    have : (r.dropWhile isContinuationBlank).length ≤ r.length :=
      (List.dropWhile_suffix isContinuationBlank).length_le
    if returnsPaired (r.takeWhile isContinuationBlank) then
      unescape rule (r.dropWhile isContinuationBlank)
    else none
  | '\\' :: _ => none
  | '\r' :: '\n' :: r => (unescape rule r).map ('\n' :: ·)
  | '\r' :: _ => none
  | c :: r => if rule.wide || decide (c.toNat < 128) then (unescape rule r).map (c :: ·) else none
termination_by cs => cs.length
decreasing_by all_goals simp only [List.length_cons] <;> omega

/-- Takes up to the delimiter; a backslash protects the character after it. -/
def scanUntil (delimiter : Char) : Scan
  | [] => none
  | '\\' :: c :: cs => (scanUntil delimiter cs).map fun (taken, rest) => ('\\' :: c :: taken, rest)
  | c :: cs =>
    if c = delimiter then some ([], cs)
    else (scanUntil delimiter cs).map fun (taken, rest) => (c :: taken, rest)

/-- Takes up to a quote that is followed by the given marks. -/
def scanRaw (marks : List Char) : Scan
  | [] => none
  | c :: cs =>
    if c = '"' ∧ marks.isPrefixOf cs then some ([], cs.drop marks.length)
    else (scanRaw marks cs).map fun (taken, rest) => (c :: taken, rest)

/-- A string between quotes after `lead`. -/
def scanCooked (rule : EscapeRule) (lead cs : List Char) : Option (List Char × List Char) := do
  let (inner, rest) ← scanUntil '"' cs
  let _ ← unescape rule inner
  some (withSuffix (lead ++ '"' :: inner ++ ['"']) rest)

/-- A raw string: quotes with the same number of marks on both sides, after `lead`. -/
def scanRawString (ascii : Bool) (lead cs : List Char) : Option (List Char × List Char) := do
  let (marks, rest) := spanChars (· == '#') cs
  match rest with
  | '"' :: rest =>
    if 255 < marks.length then none
    else
      let (inner, rest) ← scanRaw marks rest
      if returnsPaired inner && (!ascii || inner.all fun c => decide (c.toNat < 128)) then
        some (withSuffix (lead ++ marks ++ '"' :: inner ++ '"' :: marks) rest)
      else none
  | _ => none

/-- The written form of one character before a closing quote. -/
def scanOneChar : Scan
  | '\\' :: 'u' :: '{' :: cs => do
    let (digits, rest) := spanChars (· != '}') cs
    match rest with
    | '}' :: rest => some ('\\' :: 'u' :: '{' :: digits ++ ['}'], rest)
    | _ => none
  | '\\' :: 'x' :: a :: b :: cs => some (['\\', 'x', a, b], cs)
  | '\\' :: c :: cs => some (['\\', c], cs)
  | c :: cs => some ([c], cs)
  | [] => none

/-- Whether what stands between single quotes is the written form of one character. -/
def isOneChar (rule : EscapeRule) : List Char → Bool
  | '\\' :: '\n' :: _ => false
  | '\\' :: cs => (unescape rule ('\\' :: cs)).any fun value => value.length == 1
  | [c] => rule.wide || decide (c.toNat < 128)
  | _ => false

/-- A character between single quotes after `lead`. -/
def scanCharacter (rule : EscapeRule) (lead cs : List Char) : Option (List Char × List Char) := do
  let (inner, rest) ← scanOneChar cs
  match rest with
  | '\'' :: rest =>
    if isOneChar rule inner then some (withSuffix (lead ++ '\'' :: inner ++ ['\'']) rest) else none
  | _ => none

/-- Whether a character is a decimal digit or the separator of digits. -/
def isDigitMark (c : Char) : Bool := c.isDigit || c == '_'

/-- The exponent of a decimal number after its mark: sign and digits. There has to be a digit, and
only one sign before it. -/
def scanExponent (cs : List Char) : Option (List Char × List Char) :=
  let (lead, rest) := spanChars (· == '_') cs
  let (sign, rest) := match rest with
    | '+' :: r => (['+'], r)
    | '-' :: r => (['-'], r)
    | r => ([], r)
  let (digits, rest) := spanChars isDigitMark rest
  if digits.any Char.isDigit then some (lead ++ sign ++ digits, rest) else none

/-- The exponent of a decimal number with its mark. -/
def scanMarkedExponent : Scan
  | c :: cs =>
    if c = 'e' ∨ c = 'E' then
      (scanExponent cs).map fun (exponent, rest) => (c :: exponent, rest)
    else none
  | [] => none

/-- Whether a point before a text belongs to a number: no further point and no word follows it. -/
def endsPoint : List Char → Bool
  | c :: _ => c != '.' && !isIdentifierStart c
  | [] => true

/-- A number with a fraction or an exponent. -/
def scanFloat (cs : List Char) : Option (List Char × List Char) :=
  let (whole, rest) := spanChars isDigitMark cs
  if whole.head?.any Char.isDigit then
    match rest with
    | '.' :: r =>
      if endsPoint r then
        let (fraction, r) := spanChars isDigitMark r
        let (exponent, r) := (scanMarkedExponent r).getD ([], r)
        some (withSuffix (whole ++ '.' :: fraction ++ exponent) r)
      else none
    | r => (scanMarkedExponent r).map fun (exponent, r) => withSuffix (whole ++ exponent) r
  else none

/-- The digits of a whole number in a base. A decimal digit that the base lacks makes them
faulty. -/
def scanDigits (base : Nat) (cs : List Char) : Option (List Char × List Char) :=
  let inBase (c : Char) := c == '_' || (match hexValue? c with
    | some v => decide (v < base) || c.isDigit
    | none => false)
  let (digits, rest) := spanChars inBase cs
  let values := digits.filterMap hexValue?
  if values.isEmpty || values.any fun v => decide (base ≤ v) then none
  else if base = 10 ∧ digits.head? = some '_' then none
  else some (digits, rest)

/-- The digits of a whole number, perhaps with a sign of their base. -/
def scanBased : Scan
  | '0' :: 'x' :: r => (scanDigits 16 r).map fun (d, r) => ('0' :: 'x' :: d, r)
  | '0' :: 'o' :: r => (scanDigits 8 r).map fun (d, r) => ('0' :: 'o' :: d, r)
  | '0' :: 'b' :: r => (scanDigits 2 r).map fun (d, r) => ('0' :: 'b' :: d, r)
  | cs => scanDigits 10 cs

/-- A whole number. -/
def scanInteger (cs : List Char) : Option (List Char × List Char) := do
  let (digits, rest) ← scanBased cs
  let (taken, rest) := withSuffix digits rest
  if rest.head?.any isIdentifierContinue then none else some (taken, rest)

/-- The literal at the start of a text. -/
def scanLiteral (cs : List Char) : Option (List Char × List Char) :=
  match cs with
  | '"' :: r => scanCooked textEscapes [] r
  | 'b' :: '"' :: r => scanCooked byteEscapes ['b'] r
  | 'c' :: '"' :: r => scanCooked zeroEndedEscapes ['c'] r
  | 'b' :: '\'' :: r => scanCharacter byteEscapes ['b'] r
  | '\'' :: r => scanCharacter textEscapes [] r
  | 'b' :: 'r' :: r => scanRawString true ['b', 'r'] r
  | 'c' :: 'r' :: r => scanRawString false ['c', 'r'] r
  | 'r' :: r => scanRawString false ['r'] r
  | _ => scanFloat cs <|> scanInteger cs

/-! ### Kinds and values -/

/-- Whether some characters are a word. -/
def isWord (cs : List Char) : Bool :=
  match scanWord cs with
  | some (_, rest) => rest.isEmpty
  | none => false

/-- Whether what follows the mark of an exponent makes a number one with an exponent: a sign, or
digits that nothing but a word may follow. -/
def isExponent (cs : List Char) : Bool :=
  let (digits, rest) := spanChars isDigitMark cs
  match rest with
  | '+' :: _ | '-' :: _ => true
  | [] => digits.any Char.isDigit
  | rest => digits.any Char.isDigit && isWord rest

/-- The value of digits in a base and what follows them, unless that is a fraction or an exponent.
The first two arguments are the value so far and whether there was a digit. -/
def digitsValue (base : Nat) : Nat → Bool → List Char → Option (Nat × List Char)
  | value, seen, [] => if seen then some (value, []) else none
  | value, seen, '_' :: cs => digitsValue base value seen cs
  | value, seen, c :: cs =>
    let digit := if c.isDigit || decide (10 < base) then hexValue? c else none
    match digit with
    | some d => if d < base then digitsValue base (base * value + d) true cs else none
    | none =>
      if base = 10 ∧ (c = '.' ∨ (c = 'e' ∨ c = 'E') ∧ isExponent cs) ∨ !seen then none
      else some (value, c :: cs)

/-- The value and the suffix of a whole number. -/
def wholeValue? (text : String) : Option (Nat × List Char) := do
  let (value, suffix) ← match text.toList with
    | '0' :: 'x' :: cs => digitsValue 16 0 false cs
    | '0' :: 'o' :: cs => digitsValue 8 0 false cs
    | '0' :: 'b' :: cs => digitsValue 2 0 false cs
    | cs => digitsValue 10 0 false cs
  if suffix.isEmpty || isWord suffix then some (value, suffix) else none

/-- The place that a number without a suffix stands for, which has to fit into 32 bits. -/
def placeValue? (text : String) : Option Nat := do
  let (value, suffix) ← wholeValue? text
  if suffix.isEmpty && decide (value < Nat.pow 2 32) then some value else none

/-- The kinds of literals. -/
inductive LiteralKind
  | text
  | byteString
  | zeroEnded
  | byte
  | character
  | integer
  | float
  /-- The mark of a place where no token could be made. -/
  | mark
deriving DecidableEq, Repr

/-- The kind of a written literal. -/
def LiteralKind.ofText (text : String) : LiteralKind :=
  match text.toList with
  | '"' :: _ => .text
  | 'r' :: _ => .text
  | 'b' :: '\'' :: _ => .byte
  | 'b' :: _ => .byteString
  | 'c' :: _ => .zeroEnded
  | '\'' :: _ => .character
  | '(' :: _ => .mark
  | _ => if (wholeValue? text).isSome then .integer else .float

/-- What a string literal stands for, and the suffix after it. -/
def stringValue? (text : String) : Option (String × String) :=
  match text.toList with
  | '"' :: cs => do
    let (inner, suffix) ← scanUntil '"' cs
    let value ← unescape textEscapes inner
    some (String.ofList value, String.ofList suffix)
  | 'r' :: cs => do
    let (marks, rest) := spanChars (· == '#') cs
    let (inner, suffix) ← scanRaw marks (rest.drop 1)
    some (String.ofList inner, String.ofList suffix)
  | _ => none

end Beans.Syntax
