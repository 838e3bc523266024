/-!
# Tokens

Source text as token trees: identifiers, punctuation characters, literals, and groups between
matching delimiters. Every token knows the first and the last line that it stands on.

## Main definitions

* `Tok` — a token tree.
* `showToks` — tokens as text, with a space between any two that are not joint.
* `asOperator` — punctuation characters that are joint because they make up one operator.
-/

set_option autoImplicit false

namespace Beans.Syntax

/-- The three pairs of delimiters. -/
inductive Delimiter
  | paren
  | bracket
  | brace
deriving DecidableEq, Repr

/-- The lines that a piece of source stands on, counted from 1. -/
structure Lines where
  /-- The first line. -/
  first : Nat
  /-- The last line. -/
  last : Nat
deriving DecidableEq, Repr, Inhabited

/-- A token tree. -/
inductive Tok where
  /-- A word; a raw one keeps its mark. -/
  | ident (name : String) (lines : Lines)
  /-- One punctuation character; a joint one is directly followed by another. -/
  | punct (char : Char) (joint : Bool) (lines : Lines)
  /-- A literal as it is written. -/
  | literal (text : String) (lines : Lines)
  /-- Tokens between delimiters. -/
  | group (delimiter : Delimiter) (items : List Tok) (lines : Lines)
deriving Repr

instance : Inhabited Tok := ⟨.ident "" ⟨0, 0⟩⟩

/-- The lines of a token. -/
def Tok.lines : Tok → Lines
  | .ident _ l | .punct _ _ l | .literal _ l | .group _ _ l => l

/-- The opening text of a group. -/
def Delimiter.opening : Delimiter → String
  | .paren => "("
  | .bracket => "["
  | .brace => "\x7b "

/-- The closing text of a group. -/
def Delimiter.closing : Delimiter → String
  | .paren => ")"
  | .bracket => "]"
  | .brace => "\x7d"

mutual

/-- A token as text. -/
def Tok.show : Tok → String
  | .ident name _ => name
  | .punct c _ _ => String.singleton c
  | .literal text _ => text
  | .group d items _ =>
    let inner := showToks items
    d.opening ++ inner ++ (if d = .brace ∧ !items.isEmpty then " " else "") ++ d.closing

/-- Tokens as text: a space between neighbours unless the first is joint punctuation. -/
def showToks : List Tok → String
  | [] => ""
  | t :: rest =>
    let joint := match t with
      | .punct _ joint _ => joint
      | _ => false
    t.show ++ (if joint || rest.isEmpty then "" else " ") ++ showToks rest

end

mutual

/-- The number of tokens of a tree, groups included. -/
def Tok.size : Tok → Nat
  | .group _ items _ => 1 + toksSize items
  | .ident .. | .punct .. | .literal .. => 1

/-- The number of tokens of a list of trees. -/
def toksSize : List Tok → Nat
  | [] => 0
  | t :: rest => t.size + toksSize rest

end

/-- Punctuation characters as one operator: each is joint but the last one. -/
def asOperator : List Tok → List Tok
  | [] => []
  | .punct c _ l :: rest => .punct c (!rest.isEmpty) l :: asOperator rest
  | t :: rest => t :: asOperator rest

end Beans.Syntax
