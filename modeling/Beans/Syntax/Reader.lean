import Beans.Syntax.Literal
import Beans.Syntax.Token

/-!
# Readers of tokens

A reader takes tokens from the front of a list, or fails. What it takes it writes down, in the form
in which source is printed: operators are joined as they were understood, and some phrases have an
order or a spelling of their own. This module holds the questions that a reader asks about the next
tokens, and the small readers from which the grammar is built.

## Main definitions

* `Tape`, `Reader` — tokens to read and tokens written down, and what works on them: a reader takes
  tokens from the front only.
* `Reader.front`, `Reader.whole` — reading the front of a token list, or all of it.
* `Reader.captured`, `Reader.verbatim`, `Reader.writtenIf` — control over what is written down.
* `Reader.separated`, `Reader.separatedWhile`, `Reader.chained`, `Reader.lifetimesFirst` — lists.
-/

set_option autoImplicit false

namespace Beans.Syntax

/-- Where a reader stands. -/
structure Tape where
  /-- The tokens that come next. -/
  ahead : List Tok
  /-- The tokens that are written down, the last one first. -/
  written : List Tok := []

/-- A reader of the front of a token list: the tokens that it leaves are the last ones of those that
came next. -/
structure Reader (α : Type) where
  /-- What is read, and where the reader stands then; nothing if it fails. -/
  run : Tape → Option (α × Tape)
  /-- Tokens are taken from the front only. -/
  suffix : ∀ {t t' : Tape} {a : α}, run t = some (a, t') → t'.ahead <:+ t.ahead

/-! ### Questions about the next tokens -/

/-- The words that are no identifiers. -/
def keywords : List String :=
  ["_", "abstract", "as", "async", "await", "become", "box", "break", "const", "continue", "crate",
    "do", "dyn", "else", "enum", "extern", "false", "final", "fn", "for", "if", "impl", "in", "let",
    "loop", "macro", "match", "mod", "move", "mut", "override", "priv", "pub", "ref", "return",
    "Self", "self", "static", "struct", "super", "trait", "true", "try", "type", "typeof", "unsafe",
    "unsized", "use", "virtual", "where", "while", "yield"]

/-- The words that may stand in a path although they are no identifiers. -/
def pathKeywords : List String := ["super", "self", "Self", "crate"]

/-- Some word comes next. -/
def atAnyIdent : List Tok → Bool
  | .ident .. :: _ => true
  | _ => false

/-- An identifier comes next. -/
def atIdent : List Tok → Bool
  | .ident name _ :: _ => !keywords.contains name
  | _ => false

/-- A given word comes next. -/
def atWord (w : String) : List Tok → Bool
  | .ident name _ :: _ => name == w
  | _ => false

/-- One of some words comes next. -/
def atWords (ws : List String) (ts : List Tok) : Bool := ws.any fun w => atWord w ts

/-- The characters of an operator come next, joint up to the last one. -/
def atChars : List Char → List Tok → Bool
  | [], _ => true
  | [c], .punct d _ _ :: _ => c == d && c != '\''
  | c :: cs, .punct d true _ :: rest => c == d && c != '\'' && atChars cs rest
  | _, _ => false

/-- An operator comes next; a longer operator may start with it. -/
def atOp (op : String) (ts : List Tok) : Bool := atChars op.toList ts

/-- A lifetime comes next. -/
def atLifetime : List Tok → Bool
  | .punct '\'' _ _ :: .ident .. :: _ => true
  | _ => false

/-- A group comes next. -/
def atGroup (d : Delimiter) : List Tok → Bool
  | .group d' _ _ :: _ => d == d'
  | _ => false

/-- A number comes next. -/
def atNumber : List Tok → Bool
  | .literal text _ :: _ =>
    LiteralKind.ofText text == .integer || LiteralKind.ofText text == .float
  | _ => false

/-- A literal comes next; a truth value and a number with a minus are literals. -/
def atLit : List Tok → Bool
  | .literal .. :: _ => true
  | .ident name _ :: _ => name == "true" || name == "false"
  | .punct '-' _ _ :: rest => atNumber rest
  | _ => false

/-- A string literal comes next. -/
def atString : List Tok → Bool
  | .literal text _ :: _ => LiteralKind.ofText text == .text
  | _ => false

/-- The tokens after the next one, where a lifetime counts as one. -/
def skipOne : List Tok → List Tok
  | .punct '\'' _ _ :: .ident .. :: rest => rest
  | _ :: rest => rest
  | [] => []

/-- A word that may start a segment of a path comes next. -/
def atPathWord (ts : List Tok) : Bool := atIdent ts || atWords pathKeywords ts

/-! ### Small readers -/

namespace Reader

variable {α β : Type}

instance : Monad Reader where
  pure a := ⟨fun t => some (a, t), by rintro t t' b ⟨⟩; exact List.suffix_rfl⟩
  bind r f := ⟨fun t => (r.run t).bind fun (a, t') => (f a).run t', by
    intro t t'' b h
    obtain ⟨⟨a, t'⟩, hr, hf⟩ := Option.bind_eq_some_iff.mp h
    exact ((f a).suffix hf).trans (r.suffix hr)⟩

/-- Reads by `r` with other tokens written down at the start, and gives another result and other
tokens at the end. -/
def adapt (r : Reader α) (start : Tape → List Tok) (result : Tape → α → Tape → β × List Tok) :
    Reader β where
  run t := (r.run ⟨t.ahead, start t⟩).map fun (a, t') =>
    let (b, toks) := result t a t'
    (b, ⟨t'.ahead, toks⟩)
  suffix h := by
    obtain ⟨⟨a, t'⟩, hr, heq⟩ := Option.map_eq_some_iff.mp h
    cases heq
    have hsuffix := r.suffix hr
    exact hsuffix

/-- Reads nothing and fails. -/
def fail : Reader α := ⟨fun _ => none, nofun⟩

/-- The tokens that come next. -/
def ahead : Reader (List Tok) :=
  ⟨fun t => some (t.ahead, t), by rintro t t' a ⟨⟩; exact List.suffix_rfl⟩

/-- Asks about the next tokens. -/
def asks (p : List Tok → Bool) : Reader Bool := p <$> ahead

/-- Fails unless something holds of the next tokens. -/
def ensure (p : List Tok → Bool) : Reader Unit := do
  if ← asks p then pure () else fail

/-- Goes on by `n` tokens, and writes down some for them. -/
def advance (n : Nat) (toks : List Tok) : Reader Unit :=
  ⟨fun t => some ((), ⟨t.ahead.drop n, toks.reverse ++ t.written⟩), by
    rintro t t' a ⟨⟩
    exact List.drop_suffix n t.ahead⟩

/-- Writes tokens down. -/
def write (toks : List Tok) : Reader Unit := advance 0 toks

/-- Takes one token as it stands. -/
def token : Reader Tok := do
  match ← ahead with
  | t :: _ =>
    advance 1 [t]
    pure t
  | [] => fail

/-- Takes a given word. -/
def word (w : String) : Reader Unit := do
  ensure (atWord w)
  let _ ← token

/-- Takes a word if it comes next, and tells whether it did. -/
def tryWord (w : String) : Reader Bool := do
  let found ← asks (atWord w)
  if found then word w
  pure found

/-- Takes an operator. -/
def op (o : String) : Reader Unit := do
  ensure (atOp o)
  let ts ← ahead
  advance o.length (asOperator (ts.take o.length))

/-- Takes an operator if it comes next, and tells whether it did. -/
def tryOp (o : String) : Reader Bool := do
  let found ← asks (atOp o)
  if found then op o
  pure found

/-- Takes any word. -/
def anyIdent : Reader String := do
  match ← token with
  | .ident name _ => pure name
  | _ => fail

/-- Takes an identifier. -/
def ident : Reader String := do
  ensure atIdent
  anyIdent

/-- Takes an identifier or the low line. -/
def identOrBlank : Reader String := do
  ensure fun ts => atIdent ts || atWord "_" ts
  anyIdent

/-- Takes a lifetime. -/
def lifetime : Reader String := do
  match ← ahead with
  | .punct '\'' _ l :: .ident name l' :: _ =>
    advance 2 [.punct '\'' true l, .ident name l']
    pure ("'" ++ name)
  | _ => fail

/-- Takes a literal. -/
def literal : Reader Unit := do
  ensure atLit
  match ← ahead with
  | .punct c _ l :: number :: _ => advance 2 [.punct c false l, number]
  | _ =>
    let _ ← token

/-- Takes a number that names a place. It is written in plain decimal. -/
def place : Reader Unit := do
  match ← ahead with
  | .literal text l :: _ =>
    match placeValue? text with
    | some n => advance 1 [.literal (toString n) l]
    | none => fail
  | _ => fail

/-- Reads the front of a token list; gives the tokens after it with the result. -/
def front (r : Reader α) (ts : List Tok) : Option (α × List Tok) :=
  (r.run ⟨ts, []⟩).map fun (a, t) => (a, t.ahead)

/-- Reads all of a token list; gives what was written down with the result. -/
def whole (r : Reader α) (ts : List Tok) : Option (α × List Tok) :=
  match r.run ⟨ts, []⟩ with
  | some (a, ⟨[], written⟩) => some (a, written.reverse)
  | _ => none

/-- Reads all of the tokens of a group. -/
def group (d : Delimiter) (r : Reader α) : Reader α := do
  match ← ahead with
  | .group d' items l :: _ =>
    if d = d' then
      match whole r items with
      | some (a, toks) =>
        advance 1 [.group d toks l]
        pure a
      | none => fail
    else fail
  | _ => fail

/-- Takes a group of any delimiter as it stands. -/
def anyGroup : Reader Delimiter := do
  match ← token with
  | .group d _ _ => pure d
  | _ => fail

/-! ### What is written down -/

/-- Reads, and also gives the tokens that were written down. -/
def captured (r : Reader α) : Reader (α × List Tok) :=
  r.adapt (fun _ => []) fun t a t' => ((a, t'.written.reverse), t'.written ++ t.written)

/-- Reads, and writes down what was read only if something holds of the result. -/
def writtenIf (p : α → Bool) (r : Reader α) : Reader α :=
  r.adapt Tape.written fun t a t' => (a, if p a then t'.written else t.written)

/-- Reads without writing anything down. -/
def silently (r : Reader α) : Reader α := writtenIf (fun _ => false) r

/-- Reads, and writes the tokens down as they stand if something holds of the result. -/
def verbatimIf (p : α → Bool) (r : Reader α) : Reader α :=
  r.adapt Tape.written fun t a t' =>
    let taken := t.ahead.take (t.ahead.length - t'.ahead.length)
    (a, if p a then taken.reverse ++ t.written else t'.written)

/-- Reads, and writes the tokens down as they stand. -/
def verbatim (r : Reader α) : Reader α := verbatimIf (fun _ => true) r

/-- Whether the last token that was written down is a group in braces. -/
def endsInBraces : Reader Bool :=
  ⟨fun t => some (atGroup .brace t.written, t), by rintro t t' a ⟨⟩; exact List.suffix_rfl⟩

/-! ### Choices and lists -/

/-- Reads, or reads nothing if that fails. -/
def attempt (r : Reader α) : Reader (Option α) where
  run t := match r.run t with
    | some (a, t') => some (some a, t')
    | none => some (none, t)
  suffix {t _ _} h := by
    cases hr : r.run t <;> simp only [hr] at h <;> cases h
    · exact List.suffix_rfl
    · exact r.suffix hr

/-- Reads, and goes back to where it stood unless something holds of the result. -/
def keptIf (p : α → Bool) (r : Reader α) : Reader α where
  run t := (r.run t).map fun (a, t') => (a, if p a then t' else t)
  suffix h := by
    obtain ⟨⟨a, t'⟩, hr, heq⟩ := Option.map_eq_some_iff.mp h
    cases heq
    split
    · exact r.suffix hr
    · exact List.suffix_rfl

/-- Reads if something holds of the next tokens. -/
def optional (p : List Tok → Bool) (r : Reader α) : Reader (Option α) := do
  if ← asks p then some <$> r else pure none

/-- Reads if something holds of the next tokens, without a result. -/
def when (p : List Tok → Bool) (r : Reader Unit) : Reader Unit := do
  if ← asks p then r

/-- Reads without a result. -/
def skip (r : Reader α) : Reader Unit := do
  let _ ← r

/-- Reads again and again until something holds of the next tokens; the number bounds the rounds. -/
def roundsUntil (stop : List Tok → Bool) (r : Reader α) : Nat → Reader (List α)
  | 0 => do
    ensure stop
    pure []
  | n + 1 => do
    if ← asks stop then pure []
    else
      let a ← r
      let others ← roundsUntil stop r n
      pure (a :: others)

/-- Reads again and again until something holds of the next tokens. -/
def manyUntil (stop : List Tok → Bool) (r : Reader α) : Reader (List α) := do
  roundsUntil stop r (← ahead).length

/-- Reads again and again while something holds of the next tokens. -/
def manyWhile (go : List Tok → Bool) (r : Reader α) : Reader (List α) :=
  manyUntil (fun ts => !go ts) r

/-- Items with separators until something holds of the next tokens; a separator may end the list.
The number bounds the items. -/
def roundsSeparated (stop : List Tok → Bool) (sep : String) (r : Reader α) :
    Nat → Reader (List α)
  | 0 => do
    ensure stop
    pure []
  | n + 1 => do
    if ← asks stop then pure []
    else
      let a ← r
      if ← asks stop then pure [a]
      else
        op sep
        let others ← roundsSeparated stop sep r n
        pure (a :: others)

/-- Items with separators until something holds of the next tokens; a separator may end the
list. -/
def separated (stop : List Tok → Bool) (sep : String) (r : Reader α) : Reader (List α) := do
  roundsSeparated stop sep r (← ahead).length

/-- Items for as long as a separator follows them and the list does not end behind it. The number
bounds the items. -/
def roundsWhile (stop : List Tok → Bool) (sep : String) (r : Reader α) : Nat → Reader (List α)
  | 0 => do
    ensure stop
    pure []
  | n + 1 => do
    if ← asks stop then pure []
    else
      let a ← r
      if ← tryOp sep then
        let others ← roundsWhile stop sep r n
        pure (a :: others)
      else pure [a]

/-- Items for as long as a separator follows them; where the list ends no item need follow. -/
def separatedWhile (stop : List Tok → Bool) (sep : String) (r : Reader α) : Reader (List α) := do
  roundsWhile stop sep r (← ahead).length

/-- A list of items with commas that fills all tokens. -/
def commaList (r : Reader α) : Reader (List α) := separated List.isEmpty "," r

/-- At least one item, and more for as long as a plus sign follows and then something that an item
starts with. The number bounds the items. -/
def roundsChained (starts : List Tok → Bool) (r : Reader α) : Nat → Reader (List α)
  | 0 => fail
  | n + 1 => do
    let a ← r
    if !(← tryOp "+") then pure [a]
    else if ← asks starts then
      let others ← roundsChained starts r n
      pure (a :: others)
    else pure [a]

/-- At least one item, and more for as long as a plus sign follows and then something that an item
starts with. -/
def chained (starts : List Tok → Bool) (r : Reader α) : Reader (List α) := do
  roundsChained starts r ((← ahead).length + 1)

/-- The tokens of entries with commas, lifetimes before all others. Each entry keeps its comma, and
one is put where another entry follows. -/
def inOrder (comma : Tok) (closed : Bool) (entries : List (Bool × List Tok)) : List Tok :=
  let marked := entries.zipIdx.map fun (e, i) => (e, closed || decide (i + 1 < entries.length))
  let ordered := marked.filter (·.1.1) ++ marked.filter (!·.1.1)
  let last := (ordered.getLast?.map (·.2)).getD false
  List.intercalate [comma] (ordered.map (·.1.2)) ++ if last then [comma] else []

/-- A list in angle brackets up to the closing one. Lifetimes are written before all other
entries. -/
def lifetimesFirst (isLifetime : α → Bool) (r : Reader α) : Reader (List α) := do
  let (entries, toks) ← silently (captured (separated (atOp ">") "," (captured r)))
  let closed := match toks.getLast? with
    | some (.punct ',' _ _) => true
    | _ => false
  let line := (toks.getLast?.map fun t => t.lines.last).getD 0
  write (inOrder (.punct ',' false ⟨line, line⟩) closed
    (entries.map fun (a, toks) => (isLifetime a, toks)))
  pure (entries.map Prod.fst)

end Reader

end Beans.Syntax
