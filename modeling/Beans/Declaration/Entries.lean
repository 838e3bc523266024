import Beans.Declaration.Fault
import Beans.Syntax.Grammar.Items

/-!
# Entries of attributes

The tokens of an attribute as a list of entries, and the value of an entry as a text, a truth
value, a name or a type. What cannot be read is reported with the line that it is on.

## Main definitions

* `Entry`, `ListEntry` — the entries of an attribute.
* `readEntries` — the entries in the tokens of an attribute.
* `Entry.text`, `Entry.flag`, `Entry.name` — values of entries.
-/

set_option autoImplicit false

namespace Beans

open Syntax

/-- What follows the name of an entry. -/
inductive EntryArgs where
  | word
  | list (toks : List Tok)
  /-- An expression of some kind behind an equals sign. -/
  | value (kind : String) (toks : List Tok)

/-- A named entry of an attribute. -/
structure Entry where
  /-- The name, with double colons between its parts. -/
  name : String
  /-- What follows it. -/
  args : EntryArgs
  /-- The line of the name. -/
  line : Nat

/-- An entry of an attribute. -/
inductive ListEntry where
  | literal (line : Nat)
  | named (entry : Entry)

/-! ### Reading lists -/

/-- The line of the next token, or of the end. -/
def lineAt (endLine : Nat) (ts : List Tok) : Nat :=
  (ts.head?.map fun t => t.lines.first).getD endLine

/-- The fault for an expectation that the next tokens do not meet. -/
def expected {α : Type} (endLine : Nat) (ts : List Tok) (what : String) : Checked α :=
  faultAt (lineAt endLine ts)
    (.unreadable
      ((if ts.isEmpty then "unexpected end of input, expected " else "expected ") ++ what))

/-- The fault for a missing punctuation mark, which does not tell the end of the tokens apart. -/
def expectedMark {α : Type} (endLine : Nat) (ts : List Tok) (mark : String) : Checked α :=
  faultAt (lineAt endLine ts) (.unreadable s!"expected `{mark}`")

/-- The fault for a missing identifier. -/
def expectedIdent {α : Type} (endLine : Nat) (ts : List Tok) : Checked α :=
  match ts with
  | .ident name _ :: _ =>
    if keywords.contains name then
      faultAt (lineAt endLine ts) (.unreadable s!"expected identifier, found keyword `{name}`")
    else expected endLine ts "identifier"
  | _ => expected endLine ts "identifier"

/-- Items with commas between them; the number bounds them. -/
def checkedList {α : Type} (endLine : Nat) (item : List Tok → Checked (α × List Tok)) :
    Nat → List Tok → Checked (List α)
  | _, [] => .ok []
  | 0, ts => expectedMark endLine ts ","
  | n + 1, ts => do
    let (a, rest) ← item ts
    if rest.isEmpty then pure [a]
    else if atOp "," rest then
      let others ← checkedList endLine item n (rest.drop 1)
      pure (a :: others)
    else expectedMark endLine rest ","

/-- The names at the start of an entry; any word will do. -/
def entryName (endLine : Nat) : Nat → List Tok → Checked (List String × List Tok)
  | 0, ts => expected endLine ts "nested attribute"
  | n + 1, ts =>
    match ts with
    | .ident name _ :: rest =>
      if atOp "::" rest then
        let rest := rest.drop 2
        if atAnyIdent rest then do
          let (names, rest) ← entryName endLine n rest
          pure (name :: names, rest)
        else expected endLine rest "path segment after `::`"
      else pure ([name], rest)
    | _ => expected endLine ts "nested attribute"

/-- An entry. -/
def readEntry (endLine : Nat) (ts : List Tok) : Checked (ListEntry × List Tok) := do
  let line := lineAt endLine ts
  let truth := atWord "true" ts || atWord "false" ts
  if atLit ts && !(truth && atOp "=" (ts.drop 1)) then
    match Reader.literal.front ts with
    | some ((), rest) => pure (.literal line, rest)
    | none => expected endLine ts "identifier or literal"
  else if atAnyIdent ts || atOp "::" ts && atAnyIdent (ts.drop 2) then
    let start := if atOp "::" ts then ts.drop 2 else ts
    let (names, rest) ← entryName endLine start.length start
    let name := Text.joinWith "::" names
    match rest with
    | .group _ items _ :: rest => pure (.named ⟨name, .list items, line⟩, rest)
    | _ =>
      if atOp "=" rest then
        let rest := rest.drop 1
        match (Reader.attributeValue (formsFor rest)).captured.front rest with
        | some ((shape, toks), rest) => pure (.named ⟨name, .value shape.kind toks, line⟩, rest)
        | none => expected endLine rest "an expression"
      else pure (.named ⟨name, .word, line⟩, rest)
  else expected endLine ts "identifier or literal"

/-- The entries in the tokens of an attribute; their end counts as line 1. -/
def readEntries (ts : List Tok) : Checked (List ListEntry) :=
  checkedList 1 (readEntry 1) (ts.length + 1) ts

/-! ### Values of entries -/

/-- The word for the type of a literal. -/
def literalWord (text : String) : String :=
  if text = "true" ∨ text = "false" then "bool"
  else match LiteralKind.ofText text with
    | .text => "string"
    | .byteString => "byte string"
    | .zeroEnded => "unknown"
    | .byte => "byte"
    | .character => "char"
    | .integer => "int"
    | .float => "float"
    | .mark => "verbatim"

/-- What the literal of an entry is. -/
inductive EntryLiteral where
  | text (value : String)
  | truth (value : Bool)
  | other (type : String)

/-- The literal that some tokens are. -/
def EntryLiteral.ofToks : List Tok → EntryLiteral
  | .literal written _ :: _ =>
    match stringValue? written with
    | some (value, _) => .text value
    | none => .other (literalWord written)
  | .punct .. :: .literal written _ :: _ => .other (literalWord written)
  | .ident name _ :: _ => .truth (name == "true")
  | _ => .other "int"

/-- The fault of an entry without a value, or with a list in its place. -/
def Entry.formFault {α : Type} (e : Entry) : Checked α :=
  match e.args with
  | .list toks => do
    let _ ← readEntries toks
    faultAt e.line (.unexpectedForm "list")
  | _ => faultAt e.line (.unexpectedForm "word")

/-- The value of an entry that has to be a text. -/
def Entry.text {α : Type} (e : Entry) (read : String → Except Fault α) : Checked α :=
  match e.args with
  | .value kind toks =>
    let line := lineAt e.line toks
    if kind = "lit" then
      match EntryLiteral.ofToks toks with
      | .text value => match read value with
        | .ok a => .ok a
        | .error fault => faultAt line fault
      | .truth _ => faultAt line (.unexpectedType "bool")
      | .other type => faultAt line (.unexpectedType type)
    else faultAt line (.unexpectedType kind)
  | _ => e.formFault

/-- The value of an entry that has to be a text with a meaning. -/
def Entry.word {α : Type} (e : Entry) (read : String → Option α) : Checked α :=
  e.text fun value => match read value with
    | some a => .ok a
    | none => .error (.unknownValue value)

/-- The value of an entry that is a truth value; the bare name says that it holds. -/
def Entry.flag (e : Entry) : Checked Bool :=
  match e.args with
  | .word => .ok true
  | .value kind toks =>
    match EntryLiteral.ofToks toks with
    | .truth value =>
      if kind = "lit" then .ok value else faultAt (lineAt e.line toks) (.unexpectedType kind)
    | _ => e.word fun
      | "true" => some true
      | "false" => some false
      | _ => none
  | .list _ => e.formFault

/-- A name with the line that it is on. -/
structure NameAt where
  /-- The name. -/
  name : String
  /-- The line. -/
  line : Nat
deriving DecidableEq, Repr

/-- An identifier in a text. -/
def readIdent? (text : String) : Option String := readText (fun _ => Reader.ident) text

/-- The value of an entry that is a name, with or without quotes. -/
def Entry.ident (e : Entry) : Checked NameAt :=
  match e.args with
  | .value kind toks =>
    let line := lineAt e.line toks
    if kind = "path" then
      match toks with
      | [.ident name _] => .ok ⟨name, line⟩
      | _ => faultAt line (.unexpectedType kind)
    else (e.word readIdent?).map fun name => ⟨name, line⟩
  | _ => e.formFault

/-- Adds the entry that faults are in. -/
def inEntry {α : Type} (entry : String) : Checked α → Checked α
  | .ok a => .ok a
  | .error faults => .error (faults.map fun f => { f with entry := some entry })

end Beans
