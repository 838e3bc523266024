import Beans.Text.Search

/-!
# File name patterns

Patterns of file names with wildcards: a question mark for one character, a star for any number of
them, classes in brackets, and two stars for any number of folders.

## Main definitions

* `NamePattern` — the pattern of one component of a path.
* `NamePattern.ofText` — reads a pattern, or says where it is malformed.
* `NamePattern.accepts` — whether a name fits a pattern.
-/

set_option autoImplicit false

namespace Beans.Files

/-- A part of a character class: the characters between two bounds, which may be the same. -/
structure CharSpan where
  /-- The first character. -/
  first : Char
  /-- The last character. -/
  last : Char
deriving DecidableEq, Repr

/-- Whether a character lies between the bounds. -/
def CharSpan.holds (s : CharSpan) (c : Char) : Bool := decide (s.first ≤ c) && decide (c ≤ s.last)

/-- A token of a pattern. -/
inductive PatternTok
  | char (c : Char)
  | anyChar
  | anyText
  /-- Any number of folders. -/
  | anyFolders
  | within (spans : List CharSpan)
  | except (spans : List CharSpan)
deriving DecidableEq, Repr

/-- What is wrong with a pattern. -/
inductive PatternCause
  | longWildcard
  | partialFolders
  | badClass
deriving DecidableEq, Repr

/-- A malformed pattern: the cause and its place in the text. -/
structure PatternFault where
  /-- The index of the character. -/
  place : Nat
  /-- The cause. -/
  cause : PatternCause
deriving DecidableEq, Repr

/-- The message for a malformed pattern. -/
def PatternFault.message (f : PatternFault) : String :=
  s!"Pattern syntax error near position {f.place}: " ++ match f.cause with
    | .longWildcard => "wildcards are either regular `*` or recursive `**`"
    | .partialFolders => "recursive wildcards must form a single path component"
    | .badClass => "invalid range pattern"

/-- The spans of a class by the characters in its brackets. -/
def classSpans : List Char → List CharSpan
  | first :: '-' :: last :: rest => ⟨first, last⟩ :: classSpans rest
  | c :: rest => ⟨c, c⟩ :: classSpans rest
  | [] => []

/-- The token of a class behind its opening bracket, with what follows it. A bracket that directly
follows the opening belongs to the class. -/
def readClass? (cs : List Char) : Option (PatternTok × List Char) :=
  let negated := cs.head? == some '!'
  match if negated then cs.drop 1 else cs with
  | [] => none
  | first :: rest =>
    (Text.splitOnce ']' rest).map fun (inside, after) =>
      let spans := classSpans (first :: inside)
      (if negated then .except spans else .within spans, after)

/-- Reads the tokens of a pattern from a place on. `before` is the character before it. -/
def readPattern (fuel place : Nat) (before : Option Char) (cs : List Char) :
    Except PatternFault (List PatternTok) :=
  match fuel, cs with
  | 0, _ => .ok []
  | _, [] => .ok []
  | fuel + 1, '?' :: rest =>
    (readPattern fuel (place + 1) (some '?') rest).map (.anyChar :: ·)
  | fuel + 1, '*' :: rest =>
    let stars := 1 + (rest.takeWhile (· == '*')).length
    let rest := rest.dropWhile (· == '*')
    if stars = 1 then (readPattern fuel (place + 1) (some '*') rest).map (.anyText :: ·)
    else if 2 < stars then .error ⟨place + 2, .longWildcard⟩
    else if before.any (· != '/') then .error ⟨place - 1, .partialFolders⟩
    else match rest with
      | [] => .ok [.anyFolders]
      | '/' :: rest =>
        (readPattern fuel (place + 3) (some '/') rest).map (.anyFolders :: ·)
      | _ => .error ⟨place + 2, .partialFolders⟩
  | fuel + 1, '[' :: rest =>
    match readClass? rest with
    | some (tok, after) =>
      (readPattern fuel (place + 1 + (rest.length - after.length)) (some ']') after).map (tok :: ·)
    | none => .error ⟨place, .badClass⟩
  | fuel + 1, c :: rest => (readPattern fuel (place + 1) (some c) rest).map (.char c :: ·)

/-- The pattern of one component of a path. -/
abbrev NamePattern := List PatternTok

/-- Reads a pattern, of one component or of a whole path. -/
def NamePattern.ofText (cs : List Char) : Except PatternFault NamePattern :=
  readPattern cs.length 0 none cs

/-- Whether a token stands for a character. -/
def PatternTok.holds (t : PatternTok) (c : Char) : Bool :=
  match t with
  | .char d => decide (c = d)
  | .within spans => spans.any fun s => s.holds c
  | .except spans => !(spans.any fun s => s.holds c)
  | .anyChar | .anyText | .anyFolders => true

/-- Whether a token stands for texts of any length. -/
def PatternTok.isLong : PatternTok → Bool
  | .anyText | .anyFolders => true
  | .char _ | .anyChar | .within _ | .except _ => false

/-- Whether the characters of a name fit a pattern. -/
def NamePattern.accepts : NamePattern → List Char → Bool
  | [], cs => cs.isEmpty
  | t :: rest, [] => t.isLong && accepts rest []
  | t :: rest, c :: cs =>
    if t.isLong then accepts rest (c :: cs) || accepts (t :: rest) cs
    else t.holds c && accepts rest cs
termination_by pattern cs => (pattern.length, cs.length)

/-- The only name that a pattern without wildcards stands for. -/
def NamePattern.name? : NamePattern → Option (List Char)
  | [] => some []
  | .char c :: rest => (name? rest).map (c :: ·)
  | _ => none

/-- Whether a pattern stands for any number of folders. -/
def NamePattern.isFolders (p : NamePattern) : Bool := p.contains .anyFolders

end Beans.Files
