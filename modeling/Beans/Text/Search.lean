/-!
# Searching and cutting texts

Replacement of every occurrence of a text, cutting at a separator and at the first occurrence of a
character.
-/

set_option autoImplicit false

namespace Beans.Text

/-- Replaces from the left; the number counts the characters still covered by the last
occurrence. -/
def replaceFrom (target replacement : List Char) : Nat → List Char → List Char
  | _, [] => []
  | k + 1, _ :: cs => replaceFrom target replacement k cs
  | 0, c :: cs =>
    if target.isPrefixOf (c :: cs) then
      replacement ++ replaceFrom target replacement (target.length - 1) cs
    else c :: replaceFrom target replacement 0 cs

/-- Replaces every occurrence of a non-empty text, from left to right and without overlap. -/
def replaceAll (target replacement s : String) : String :=
  String.ofList (replaceFrom target.toList replacement.toList 0 s.toList)

/-- Whether a text occurs in another one. -/
def occursIn (target : List Char) : List Char → Bool
  | [] => target.isEmpty
  | c :: cs => target.isPrefixOf (c :: cs) || occursIn target cs

/-- Whether `target` occurs in `s`. -/
def contains (s target : String) : Bool := occursIn target.toList s.toList

/-- Cuts at every character of a class; the pieces are one more than such characters. -/
def cutWhere (p : Char → Bool) : List Char → List (List Char)
  | [] => [[]]
  | c :: cs =>
    let pieces := cutWhere p cs
    if p c then [] :: pieces
    else match pieces with
      | [] => [[c]]
      | piece :: rest => (c :: piece) :: rest

/-- The pieces of a text between the characters of a class. -/
def splitWhere (p : Char → Bool) (s : String) : List String :=
  (cutWhere p s.toList).map String.ofList

/-- The pieces of a text between two line feeds in a row. -/
def cutParagraphs : List Char → List (List Char)
  | [] => [[]]
  | '\n' :: '\n' :: cs => [] :: cutParagraphs cs
  | c :: cs => match cutParagraphs cs with
    | [] => [[c]]
    | piece :: rest => (c :: piece) :: rest

/-- What stands before and after the first occurrence of a character. -/
def splitOnce (sep : Char) : List Char → Option (List Char × List Char)
  | [] => none
  | c :: cs =>
    if c = sep then some ([], cs)
    else (splitOnce sep cs).map fun (before, after) => (c :: before, after)

/-- What follows `start` at the beginning of a text. -/
def stripStart? : List Char → List Char → Option (List Char)
  | [], cs => some cs
  | _ :: _, [] => none
  | p :: ps, c :: cs => if p = c then stripStart? ps cs else none

/-- What precedes `tail` at the end of a text. -/
def stripEnd? (tail cs : List Char) : Option (List Char) :=
  (stripStart? tail.reverse cs.reverse).map List.reverse

/-- The texts with a separator between neighbours. -/
def joinWith (sep : String) : List String → String
  | [] => ""
  | [s] => s
  | s :: rest => s ++ sep ++ joinWith sep rest

/-- A text written a number of times in a row. -/
def timesText : Nat → String → String
  | 0, _ => ""
  | n + 1, s => s ++ timesText n s

/-- A decimal number without sign, at most `limit`. A leading plus is allowed. -/
def decimalNat? (limit : Nat) (cs : List Char) : Option Nat :=
  let digits := match cs with
    | '+' :: rest => rest
    | _ => cs
  if digits.isEmpty || !digits.all Char.isDigit then none
  else
    let n := digits.foldl (fun n c => 10 * n + (c.toNat - '0'.toNat)) 0
    if n ≤ limit then some n else none

/-- The text in lower case, where only the letters of ASCII have two cases. -/
def asciiLower (s : String) : String := String.ofList (s.toList.map Char.toLower)

end Beans.Text
