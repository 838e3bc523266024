/-!
# Lines and their terminators

A text as the list of its lines, each with the terminator that ended it. A line feed, a carriage
return and the pair of both end a line; the last line may have no terminator.

## Main definitions

* `Line` — the text of a line and its `Ending`.
* `splitLines` — the lines of a text.
* `joinLines` — the text of a list of lines, where lines without a terminator take a given one.
* `feedLines` — the coarser reading in which only a line feed ends a line.

## Main results

* `Line.flatten_splitLines` — nothing is lost: the lines with their terminators are the text again.
-/

set_option autoImplicit false

namespace Beans.Text

/-- What ends a line. -/
inductive Ending
  | none
  | feed
  | returnFeed
  | carriage
deriving DecidableEq, Repr, Inhabited

/-- The characters of a terminator. -/
def Ending.chars : Ending → List Char
  | .none => []
  | .feed => ['\n']
  | .returnFeed => ['\r', '\n']
  | .carriage => ['\r']

/-- The text of a terminator. -/
def Ending.text (e : Ending) : String := String.ofList e.chars

/-- A line of a text. -/
structure Line where
  /-- The characters before the terminator. -/
  text : String
  /-- The terminator. -/
  ending : Ending := .none
deriving DecidableEq, Repr, Inhabited

/-- The characters of a line with its terminator. -/
def Line.chars (l : Line) : List Char := l.text.toList ++ l.ending.chars

/-- Reads lines; the first argument holds the characters of the current line in reverse. -/
def readLines : List Char → List Char → List Line
  | [], [] => []
  | held@(_ :: _), [] => [⟨String.ofList held.reverse, .none⟩]
  | held, '\r' :: '\n' :: rest => ⟨String.ofList held.reverse, .returnFeed⟩ :: readLines [] rest
  | held, '\r' :: rest => ⟨String.ofList held.reverse, .carriage⟩ :: readLines [] rest
  | held, '\n' :: rest => ⟨String.ofList held.reverse, .feed⟩ :: readLines [] rest
  | held, c :: rest => readLines (c :: held) rest

/-- The lines of a text, each with the terminator that ended it. -/
def splitLines (s : String) : List Line := readLines [] s.toList

/-- Reading lines keeps every character, those held back included. -/
theorem flatten_readLines (held cs : List Char) :
    (readLines held cs).flatMap Line.chars = held.reverse ++ cs := by
  fun_induction readLines held cs <;> simp_all [Line.chars, Ending.chars]

/-- The lines of a text with their terminators are the text again. -/
theorem Line.flatten_splitLines (s : String) :
    (splitLines s).flatMap Line.chars = s.toList := by
  simpa [splitLines] using flatten_readLines [] s.toList

/-- The text of a list of lines. A line without a terminator takes `eol`, the last one only if the
text is to be `terminated`. -/
def joinLines (eol : Ending) (terminated : Bool) : List Line → List Char
  | [] => []
  | [l] =>
    l.text.toList ++
      if l.ending = .none then (if terminated then eol.chars else []) else l.ending.chars
  | l :: rest =>
    l.text.toList ++ (if l.ending = .none then eol.chars else l.ending.chars) ++
      joinLines eol terminated rest

/-- Cuts at every line feed; the pieces of a text are one more than its line feeds. -/
def cutFeeds : List Char → List Char → List (List Char)
  | held, [] => [held.reverse]
  | held, '\n' :: rest => held.reverse :: cutFeeds [] rest
  | held, c :: rest => cutFeeds (c :: held) rest

/-- A piece without the carriage return that stood before the line feed. -/
def dropReturn (cs : List Char) : List Char :=
  if cs.getLast? = some '\r' then cs.dropLast else cs

/-- The lines of a text when only a line feed ends a line, with a carriage return before it counted
to the terminator. A text that ends in a line feed has no empty last line. -/
def feedLines (s : String) : List String :=
  let pieces := cutFeeds [] s.toList
  let ended := pieces.dropLast.map dropReturn
  let last := pieces.getLast?.getD []
  (if last.isEmpty then ended else ended ++ [last]).map String.ofList

end Beans.Text
