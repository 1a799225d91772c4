import Transclude.Text.Split

/-!
# Places in a YAML text

A place knows what follows it, and its line and column, which decide how blocks are nested. Line
breaks are line feeds and the separators that have the same effect; a byte-order mark takes no
column.

## Main definitions

* `Yaml.Cursor`      : a place in a text.
* `Yaml.Cursor.gap`  : the place after spaces, comments and line breaks.
* `Yaml.breakRun`    : the line breaks before the next character that counts.
-/

namespace Transclude.Yaml

open Transclude.Text

/-- A place in a text: what follows it, the number of characters before it, the number of its line,
and its column. -/
structure Cursor where
  rest : List Char
  index : Nat := 0
  line : Nat := 0
  column : Nat := 0

/-- Whether `c` breaks lines. -/
def endsLine (c : Char) : Bool :=
  c == '\n' || c == '\x85' || c == '\u2028' || c == '\u2029'

/-- A line break as it counts in a text. -/
def asBreak (c : Char) : Char := if c == '\u2028' || c == '\u2029' then c else '\n'

/-- Whether a text is at its end, at a space or at a line break. -/
def atSpace : List Char → Bool
  | [] => true
  | c :: _ => c == ' ' || endsLine c

/-- Whether a text is at its end, at a blank or at a line break. -/
def atBlank : List Char → Bool
  | [] => true
  | c :: _ => c == ' ' || c == '\t' || endsLine c

/-- Whether the line of a text ends here. -/
def atLineEnd : List Char → Bool
  | [] => true
  | c :: _ => endsLine c

/-- Whether a text starts with a document marker of the given character. -/
def startsMarker (mark : Char) (s : List Char) : Bool :=
  match after? [mark, mark, mark] s with
  | some rest => atBlank rest
  | none => false

/-- Whether a text starts with a document marker. -/
def startsAnyMarker (s : List Char) : Bool := startsMarker '-' s || startsMarker '.' s

namespace Cursor

/-- The place after the next character. -/
def next (c : Cursor) : Cursor :=
  match c.rest with
  | [] => c
  | a :: rest =>
    if endsLine a then ⟨rest, c.index + 1, c.line + 1, 0⟩
    else ⟨rest, c.index + 1, c.line, if a == '\uFEFF' then c.column else c.column + 1⟩

/-- The place after some characters. -/
def skip : Nat → Cursor → Cursor
  | 0, c => c
  | n + 1, c => skip n c.next

/-- The characters of a class that follow, and the place after them. -/
def span (c : Cursor) (isMember : Char → Bool) : List Char × Cursor :=
  let taken := c.rest.takeWhile isMember
  (taken, c.skip taken.length)

/-- The place after spaces. -/
def spaces (c : Cursor) : Cursor := (c.span (· == ' ')).2

/-- The place after a line break, and the break as it counts in a text; without one the place
itself. -/
def lineBreak (c : Cursor) : List Char × Cursor :=
  match c.rest with
  | a :: _ => if endsLine a then ([asBreak a], c.next) else ([], c)
  | [] => ([], c)

/-- The place after the spaces, the comment and the break at the end of a line, if nothing else
stands there. -/
def lineEnd? (c : Cursor) : Option Cursor :=
  let c := c.spaces
  let c := if c.rest.head? == some '#' then (c.span fun a => !endsLine a).2 else c
  if atLineEnd c.rest then some c.lineBreak.2 else none

end Cursor

/-- The number of characters of a text up to the next one outside of spaces, comments and line
breaks. `comment` says that a comment is open. -/
def gapLength (comment : Bool) : List Char → Nat
  | [] => 0
  | a :: rest =>
    if endsLine a then gapLength false rest + 1
    else if comment || a == ' ' then gapLength comment rest + 1
    else if a == '#' then gapLength true rest + 1
    else 0

/-- The place after spaces, comments and line breaks. A byte-order mark at the start of the text
counts as such. -/
def Cursor.gap (c : Cursor) : Cursor :=
  let c := if c.index == 0 && c.rest.head? == some '\uFEFF' then c.next else c
  c.skip (gapLength false c.rest)

/-- The line breaks before the next character that is neither a break nor one of the given blanks,
and the number of characters up to it. A document marker at the start of a line ends the run too;
`start` says that a line starts here. -/
def breakRun (isBlank : Char → Bool) (start : Bool) : List Char → List Char × Nat
  | [] => ([], 0)
  | a :: rest =>
    if start && startsAnyMarker (a :: rest) then ([], 0)
    else if endsLine a then
      let (more, n) := breakRun isBlank true rest
      (asBreak a :: more, n + 1)
    else if isBlank a then
      let (more, n) := breakRun isBlank false rest
      (more, n + 1)
    else ([], 0)

/-- What a run of line breaks stands for: a single line feed is a space, and of several the first
does not count. -/
def folded : List Char → List Char
  | [] => []
  | first :: more =>
    if first != '\n' then first :: more
    else if more.isEmpty then [' '] else more

end Transclude.Yaml
