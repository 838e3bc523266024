import Beans.Syntax.Literal
import Beans.Syntax.Token
import Beans.Text.Blank

/-!
# Reading tokens

From text to token trees. White space and plain comments separate tokens; a documentation comment
stands for a documentation attribute; groups need matching delimiters.

## Main definitions

* `lexemes` — the flat pieces of a text: openings, closings and single tokens.
* `readToks` — the token trees of a text, or nothing if it is not made of tokens.
-/

set_option autoImplicit false

namespace Beans.Syntax

open Text

/-- A flat piece of a text. -/
inductive Lexeme
  | opening (delimiter : Delimiter) (line : Nat)
  | closing (delimiter : Delimiter) (line : Nat)
  | leaf (token : Tok)

/-- White space between tokens: blank characters and the two marks of writing direction. -/
def isSeparator (c : Char) : Bool := isBlank c || c.toNat == 0x200E || c.toNat == 0x200F

/-- The characters of a line, and what follows them; the line feed stays. -/
def takeLine : List Char → List Char × List Char
  | [] => ([], [])
  | '\n' :: cs => ([], '\n' :: cs)
  | '\r' :: '\n' :: cs => ([], '\n' :: cs)
  | c :: cs =>
    let (taken, rest) := takeLine cs
    (c :: taken, rest)

/-- The rest of a comment that is `depth` levels deep, up to and with its closing. -/
def takeComment : Nat → List Char → Option (List Char × List Char)
  | _, [] => none
  | depth, '/' :: '*' :: cs =>
    (takeComment (depth + 1) cs).map fun (taken, rest) => ('/' :: '*' :: taken, rest)
  | depth, '*' :: '/' :: cs =>
    if depth ≤ 1 then some (['*', '/'], cs)
    else (takeComment (depth - 1) cs).map fun (taken, rest) => ('*' :: '/' :: taken, rest)
  | depth, c :: cs => (takeComment depth cs).map fun (taken, rest) => (c :: taken, rest)

/-- A comment with its opening and closing. -/
def takeBlock : List Char → Option (List Char × List Char)
  | '/' :: '*' :: cs => (takeComment 1 cs).map fun (taken, rest) => ('/' :: '*' :: taken, rest)
  | _ => none

/-- What is between the marks of a documentation comment in block form. -/
def blockInside (cs : List Char) : List Char := (cs.drop 3).dropLast.dropLast

/-- A stretch of comment or white space, or a documentation comment. -/
inductive Gap
  /-- Nothing that counts. -/
  | skip (taken rest : List Char)
  /-- A documentation comment; an inner one belongs to what encloses it. -/
  | docs (inner : Bool) (text taken rest : List Char)

/-- A documentation comment that ends with its line, after `mark`. -/
def takeLineDocs (inner : Bool) (mark cs : List Char) : Option Gap :=
  let (text, rest) := takeLine cs
  if returnsPaired text then some (.docs inner text (mark ++ text) rest) else none

/-- A documentation comment in block form. -/
def takeBlockDocs (inner : Bool) (cs : List Char) : Option Gap := do
  let (taken, rest) ← takeBlock cs
  let text := blockInside taken
  if returnsPaired text then some (.docs inner text taken rest) else none

/-- The comment or white space at the start of a text. -/
def takeGap : List Char → Option Gap
  | '/' :: '/' :: '/' :: '/' :: cs =>
    let (taken, rest) := takeLine ('/' :: '/' :: '/' :: '/' :: cs)
    some (.skip taken rest)
  | '/' :: '/' :: '/' :: cs => takeLineDocs false ['/', '/', '/'] cs
  | '/' :: '/' :: '!' :: cs => takeLineDocs true ['/', '/', '!'] cs
  | '/' :: '/' :: cs =>
    let (taken, rest) := takeLine ('/' :: '/' :: cs)
    some (.skip taken rest)
  | '/' :: '*' :: '*' :: '/' :: cs => some (.skip ['/', '*', '*', '/'] cs)
  | '/' :: '*' :: '*' :: '*' :: cs =>
    (takeBlock ('/' :: '*' :: '*' :: '*' :: cs)).map fun (taken, rest) => .skip taken rest
  | '/' :: '*' :: '*' :: cs => takeBlockDocs false ('/' :: '*' :: '*' :: cs)
  | '/' :: '*' :: '!' :: cs => takeBlockDocs true ('/' :: '*' :: '!' :: cs)
  | '/' :: '*' :: cs => (takeBlock ('/' :: '*' :: cs)).map fun (taken, rest) => .skip taken rest
  | c :: cs => if isSeparator c then some (.skip [c] cs) else none
  | [] => none

/-- The characters that can be punctuation. -/
def isPunctuation (c : Char) : Bool := "~!@#$%^&*-=+|;:,<.>/?'".toList.contains c

/-- Whether a punctuation character stands at the start; the start of a comment is none. -/
def startsPunctuation : List Char → Bool
  | '/' :: '/' :: _ => false
  | '/' :: '*' :: _ => false
  | c :: _ => isPunctuation c
  | [] => false

/-- Openings of literals that no identifier may look like. -/
def literalOpenings : List String :=
  ["r\"", "r#\"", "r##", "b\"", "b'", "br\"", "br#", "c\"", "cr\"", "cr#"]

/-- Words that have no raw form. -/
def neverRaw : List String := ["_", "super", "self", "Self", "crate"]

/-- An identifier, perhaps a raw one. -/
def scanIdentifier (cs : List Char) : Option (List Char × List Char) :=
  match cs with
  | 'r' :: '#' :: r => do
    let (word, rest) ← scanWord r
    if neverRaw.contains (String.ofList word) then none else some ('r' :: '#' :: word, rest)
  | _ => scanWord cs

/-- The single token at the start of a text, with its characters and those after it. -/
def scanLeaf (line : Nat) (cs : List Char) : Option (Tok × List Char × List Char) :=
  match scanLiteral cs with
  | some (taken, rest) =>
    some (.literal (String.ofList taken) ⟨line, line + taken.count '\n'⟩, taken, rest)
  | none =>
    if startsPunctuation cs then
      match cs with
      | '\'' :: rest => do
        let (word, after) ← scanIdentifier rest
        let raw := word.take 2 = ['r', '#']
        if after.head? = some '\'' ∨ after.head? = some '#' ∧ !raw then none
        else some (.punct '\'' true ⟨line, line⟩, ['\''], rest)
      | c :: rest => some (.punct c (startsPunctuation rest) ⟨line, line⟩, [c], rest)
      | [] => none
    else if literalOpenings.any fun opening => opening.toList.isPrefixOf cs then none
    else do
      let (word, rest) ← scanIdentifier cs
      some (.ident (String.ofList word) ⟨line, line⟩, word, rest)

/-- The tokens of the attribute that a documentation comment stands for. -/
def docToks (inner : Bool) (text : String) (lines : Lines) : List Tok :=
  [.punct '#' false lines] ++ (if inner then [.punct '!' false lines] else []) ++
    [.group .bracket
      [.ident "doc" lines, .punct '=' false lines, .literal (quoted text) lines] lines]

/-- The delimiter that a character opens. -/
def openingOf? : Char → Option Delimiter
  | '(' => some .paren
  | '[' => some .bracket
  | '{' => some .brace
  | _ => none

/-- The delimiter that a character closes. -/
def closingOf? : Char → Option Delimiter
  | ')' => some .paren
  | ']' => some .bracket
  | '}' => some .brace
  | _ => none

/-- The mark that stands where no token could be made; it is a literal of its own. -/
def faultMark : List Char := "(/*ERROR*/)".toList

/-- The flat pieces of a text from line `line` on. Each takes at least one character, so `fuel` is
the length of the text. -/
def lexFrom : Nat → Nat → List Char → Option (List Lexeme)
  | _, _, [] => some []
  | 0, _, _ => none
  | fuel + 1, line, cs@(c :: rest) =>
    match takeGap cs with
    | some (.skip taken rest) => lexFrom fuel (line + taken.count '\n') rest
    | some (.docs inner text taken rest) =>
      let last := line + taken.count '\n'
      (lexFrom fuel last rest).map
        ((docToks inner (String.ofList text) ⟨line, last⟩).map Lexeme.leaf ++ ·)
    | none =>
      if faultMark.isPrefixOf cs then
        (lexFrom fuel line (cs.drop faultMark.length)).map
          (.leaf (.literal (String.ofList faultMark) ⟨line, line⟩) :: ·)
      else match openingOf? c, closingOf? c with
      | some d, _ => (lexFrom fuel line rest).map (.opening d line :: ·)
      | _, some d => (lexFrom fuel line rest).map (.closing d line :: ·)
      | none, none => do
        let (token, taken, rest) ← scanLeaf line cs
        (lexFrom fuel (line + taken.count '\n') rest).map (.leaf token :: ·)

/-- The flat pieces of a text. -/
def lexemes (cs : List Char) : Option (List Lexeme) := lexFrom cs.length 1 cs

/-- Builds trees. The first argument holds the open groups, each with the tokens before it in
reverse; the second one the tokens of the innermost group in reverse. -/
def treesFrom : List (Delimiter × Nat × List Tok) → List Tok → List Lexeme → Option (List Tok)
  | [], held, [] => some held.reverse
  | _ :: _, _, [] => none
  | frames, held, .opening d line :: rest => treesFrom ((d, line, held) :: frames) [] rest
  | (d, line, outer) :: frames, held, .closing d' line' :: rest =>
    if d = d' then treesFrom frames (.group d held.reverse ⟨line, line'⟩ :: outer) rest else none
  | [], _, .closing .. :: _ => none
  | frames, held, .leaf t :: rest => treesFrom frames (t :: held) rest

/-- The token trees of a text. -/
def readToks (text : String) : Option (List Tok) := (lexemes text.toList).bind (treesFrom [] [])

end Beans.Syntax
