import Transclude.Number.Shortest
import Transclude.Text.Shown
import Transclude.Value.Display
import Transclude.Value.Yaml.Kind

/-!
# Writing YAML

Values as YAML in block style. Text stands without quotes where that is safe, in single quotes where
it is not, and in double quotes if it holds characters that have to be escaped. Long text is broken
at single spaces once a line is wider than eighty characters.

## Main definitions

* `Yaml.Sheet`     : the text written so far, with the position on its last line.
* `Yaml.Traits`    : what a text allows.
* `Value.toYaml`   : the YAML of a value.
-/

namespace Transclude

/-- Numbers in YAML: positional from `0.0001` to below ten to the sixteenth, and always with a
point. -/
def yamlNumber : DecimalFormat :=
  { lowest := -4, highest := 16, infinity := ".inf", pointedMantissa := true }

namespace Yaml

open Transclude.Text

/-- The width of a line after which text is broken. -/
def lineWidth : Nat := 80

/-- The text written so far, in reverse, the number of characters on its last line, whether a blank
precedes the next character, and whether the last line holds nothing but indentation and
indicators. -/
structure Sheet where
  reversed : List Char := []
  column : Nat := 0
  blank : Bool := true
  fresh : Bool := true

namespace Sheet

/-- The sheet with text added to its last line. -/
def put (s : Sheet) (text : List Char) : Sheet :=
  { s with reversed := text.reverse ++ s.reversed, column := s.column + text.length }

/-- The sheet with a line break added. -/
def breakLine (s : Sheet) (c : Char) : Sheet :=
  { reversed := c :: s.reversed, column := 0, blank := true, fresh := true }

/-- The sheet moved to an indentation, on a new line unless the last one is still free. -/
def indentTo (s : Sheet) (indent : Nat) : Sheet :=
  let s := if !s.fresh || decide (s.column > indent) || (s.column == indent && !s.blank)
    then s.breakLine '\n' else s
  if s.column < indent then
    { s.put (List.replicate (indent - s.column) ' ') with blank := true }
  else s

/-- The sheet with an indicator added, after a blank if it needs one. -/
def indicate (s : Sheet) (text : String) (spaced fresh : Bool) : Sheet :=
  let text := if s.blank || !spaced then text.toList else ' ' :: text.toList
  { s.put text with blank := false, fresh := s.fresh && fresh }

end Sheet

/-- Whether `c` breaks lines. -/
def isBreak (c : Char) : Bool :=
  c == '\n' || c == '\x85' || c == '\u2028' || c == '\u2029'

/-- Whether `c` separates words in a check of its neighbours. -/
def isGap (c : Char) : Bool := c == ' ' || c == '\t' || c == '\r' || c == '\x00' || isBreak c

/-- Whether `c` may stand unescaped in a text without double quotes. -/
def isPrintable (c : Char) : Bool :=
  let n := c.toNat
  c == '\n' || (32 ≤ n && n ≤ 126) ||
    ((c == '\x85' || (0xA0 ≤ n && n ≤ 0xD7FF) || (0xE000 ≤ n && n ≤ 0xFFFD) ||
      (0x10000 ≤ n && n < 0x10FFFF)) && n != 0xFEFF)

/-- What a text allows: whether it has several lines, and whether it may stand without quotes or in
single quotes. -/
structure Traits where
  multiline : Bool
  plain : Bool
  single : Bool
  deriving DecidableEq, Repr

namespace Traits

/-- Whether the character at the start of a text is an indicator there. -/
def leadingIndicator : List Char → Bool
  | [] => false
  | c :: rest =>
    "#,[]\x7b\x7d&*!|>'\"%@`".toList.contains c ||
      ((c == '?' || c == ':' || c == '-') && (rest.head?.map isGap).getD true)

/-- Whether a character after the first one is an indicator: a colon before a gap, or a number sign
after one. -/
def innerIndicator : List Char → Bool
  | a :: c :: rest =>
    (c == ':' && (rest.head?.map isGap).getD true) || (c == '#' && isGap a) ||
      innerIndicator (c :: rest)
  | _ => false

/-- Whether a character of one kind stands before one of another kind. -/
def adjacent (first second : Char → Bool) : List Char → Bool
  | a :: b :: rest => (first a && second b) || adjacent first second (b :: rest)
  | _ => false

/-- Whether a text begins like a document marker. -/
def startsMarker (s : List Char) : Bool :=
  (after? ['-', '-', '-'] s).isSome || (after? ['.', '.', '.'] s).isSome

/-- What a text allows. -/
def ofText (s : List Char) : Traits :=
  let isSpace := fun c => c == ' '
  let ends (isMember : Char → Bool) : Bool :=
    (s.head?.map isMember).getD false || (s.getLast?.map isMember).getD false
  let multiline := s.any isBreak
  let special := !s.all isPrintable
  let indicators := startsMarker s || leadingIndicator s || innerIndicator s
  let escaped := adjacent isSpace isBreak s || special
  let single := !adjacent isBreak isSpace s && !escaped
  { multiline := multiline
    plain := !s.isEmpty && single && !ends isSpace && !multiline && !indicators
    single := single }

end Traits

/-! ## Scalars -/

/-- A text without quotes; it may be broken at its single spaces. -/
def plainFrom (indent : Nat) (split : Bool) : List (List Char) → Sheet → Sheet
  | [], s => s
  | [word], s => s.put word
  | word :: rest, s =>
    let s := s.put word
    let alone := !word.isEmpty && (rest.head?.map fun next => !next.isEmpty).getD false
    if alone && split && decide (s.column > lineWidth) then
      plainFrom indent split rest { s.indentTo indent with blank := false, fresh := false }
    else plainFrom indent split rest (s.put [' '])

/-- The sheet with a text without quotes. -/
def writePlain (indent : Nat) (split : Bool) (text : List Char) (s : Sheet) : Sheet :=
  let s := if s.blank then s else s.put [' ']
  plainFrom indent split (fields (· == ' ') text) { s with blank := false, fresh := false }

/-- The sheet with line breaks of a text in single quotes; a line feed is written twice, as a single
one would stand for a space. -/
def writeBreaks (indent : Nat) (breaks : List Char) (s : Sheet) : Sheet :=
  let s := if breaks.head? == some '\n' then s.breakLine '\n' else s
  (breaks.foldl Sheet.breakLine s).indentTo indent

/-- The pieces of a text in single quotes: runs of spaces, runs of line breaks, and other
characters one by one. -/
def singlePieces : List Char → List (List Char)
  | [] => []
  | c :: rest =>
    match singlePieces rest with
    | (d :: more) :: pieces =>
      if (c == ' ' && d == ' ') || (isBreak c && isBreak d) then (c :: d :: more) :: pieces
      else [c] :: (d :: more) :: pieces
    | pieces => [c] :: pieces

/-- The pieces of a text in single quotes; `first` says that nothing precedes them. A line that is
too wide is broken in the place of a single space between other pieces. A quote is written twice. -/
def singleFrom (indent : Nat) (split first : Bool) : List (List Char) → Sheet → Sheet
  | [], s => s
  | piece :: rest, s =>
    let wide := split && !first && !rest.isEmpty && decide (s.column > lineWidth)
    let s := match piece with
      | [' '] => if wide then s.indentTo indent else s.put piece
      | ['\''] => s.put ['\'', '\'']
      | _ => if piece.any isBreak then writeBreaks indent piece s else s.put piece
    singleFrom indent split false rest s

/-- The sheet with a text in single quotes. -/
def writeSingle (indent : Nat) (split : Bool) (text : List Char) (s : Sheet) : Sheet :=
  (singleFrom indent split true (singlePieces text) (s.indicate "'" true false)).indicate "'"
    false false

/-- The short escapes of characters. -/
def shortEscapes : List (Char × Char) :=
  [('\x00', '0'), ('\x07', 'a'), ('\x08', 'b'), ('\t', 't'), ('\n', 'n'), ('\x0b', 'v'),
   ('\x0c', 'f'), ('\r', 'r'), ('\x1b', 'e'), ('"', '"'), ('\\', '\\'), ('\x85', 'N'),
   ('\xa0', '_'), ('\u2028', 'L'), ('\u2029', 'P')]

/-- The digits of a number in base sixteen, in capitals. -/
def hexCapitals (width n : Nat) : List Char := (hexDigits width n).map Char.toUpper

/-- The escape of a character in double quotes, if it has to be escaped. -/
def escape? (c : Char) : Option (List Char) :=
  let n := c.toNat
  let harmless := (32 ≤ n && n ≤ 126) || (0xA0 ≤ n && n ≤ 0xD7FF) || (0xE000 ≤ n && n ≤ 0xFFFD)
  let special := ['"', '\\', '\x85', '\u2028', '\u2029', '\uFEFF'].contains c
  if harmless && !special then none
  else match shortEscapes.find? (·.1 == c) with
    | some (_, short) => some ['\\', short]
    | none =>
      if n ≤ 0xFF then some ('\\' :: 'x' :: hexCapitals 2 n)
      else if n ≤ 0xFFFF then some ('\\' :: 'u' :: hexCapitals 4 n)
      else some ('\\' :: 'U' :: hexCapitals 8 n)

/-- The sheet with a line of a text in double quotes broken by a backslash before `next`. A space at
the start of a line is escaped. -/
def breakDouble (indent : Nat) (held : List Char) (next : Option Char) (s : Sheet) : Sheet :=
  let s := (s.put (held.reverse ++ ['\\'])).indentTo indent
  let s := { s with blank := false, fresh := false }
  if next == some ' ' then s.put ['\\'] else s

/-- The rest of a text in double quotes. The characters that are held back until the next escape or
break are given in reverse, and `first` says that nothing precedes the text. A line that is too wide
is broken at a space or beside an escape, but not before the last character. -/
def doubleFrom (indent : Nat) (split first : Bool) (held : List Char) :
    List Char → Sheet → Sheet
  | [], s => s.put held.reverse
  | c :: rest, s =>
    let inside := split && !first && !rest.isEmpty
    match escape? c with
    | some escaped =>
      let s := (s.put held.reverse).put escaped
      let wide := inside && decide (s.column > lineWidth + 1)
      doubleFrom indent split false [] rest (if wide then breakDouble indent [] rest.head? s else s)
    | none =>
      let wide := inside && (c == ' ' || held.isEmpty) &&
        decide (s.column + held.length > lineWidth)
      if wide then
        doubleFrom indent split false [c] rest (breakDouble indent held (some c) s)
      else doubleFrom indent split false (c :: held) rest s

/-- The sheet with a text in double quotes. -/
def writeDouble (indent : Nat) (split : Bool) (text : List Char) (s : Sheet) : Sheet :=
  (doubleFrom indent split true [] text (s.indicate "\"" true false)).indicate "\"" false false

/-- The sheet with a text as a scalar, in the plainest form that reads back as that text. A key is
never broken. -/
def writeText (indent : Nat) (key : Bool) (text : String) (s : Sheet) : Sheet :=
  let chars := text.toList
  let traits := Traits.ofText chars
  if Kind.ofPlain text == .text && traits.plain then writePlain indent (!key) chars s
  else if traits.single && !(key && traits.multiline) then writeSingle indent (!key) chars s
  else writeDouble indent (!key) chars s

/-- Whether a text may be a key in front of a colon; otherwise a question mark precedes it. -/
def isSimpleKey (key : String) : Bool :=
  let chars := key.toList
  decide (chars.length < 123) && !chars.isEmpty && !(Traits.ofText chars).multiline

/-! ## Values -/

/-- The indentation inside a collection or a scalar. -/
def deeper (indent : Option Nat) : Nat := (indent.map (· + 2)).getD 2

/-- The indentation of the items of a list. Below a key they are not indented. -/
def listIndent (indent : Option Nat) (inTable : Bool) (s : Sheet) : Nat :=
  match indent with
  | none => 0
  | some n => if inTable && !s.fresh then n else n + 2

/-- The indentation of the keys of a table. -/
def tableIndent (indent : Option Nat) : Nat := (indent.map (· + 2)).getD 0

/-- The sheet with a scalar. -/
def writeScalar (indent : Nat) (key : Bool) (scalar : Scalar) (s : Sheet) : Sheet :=
  let plainly (text : String) : Sheet := writePlain indent (!key) text.toList s
  match scalar with
  | .null => plainly "null"
  | .bool b => plainly (if b then "true" else "false")
  | .real x => plainly (x.write yamlNumber)
  | .nan => plainly ".nan"
  | .text text => writeText indent key text s
  | other => plainly other.asText

/-- The sheet with a key and what separates it from its value. -/
def writeKey (indent : Nat) (key : Scalar) (s : Sheet) : Sheet :=
  if isSimpleKey key.asText then
    (writeScalar (indent + 2) true key s).indicate ":" false false
  else
    let s := writeScalar (indent + 2) false key (s.indicate "?" true true)
    (s.indentTo indent).indicate ":" true true

/-- The sheet with what precedes an item of a list. -/
def startItem (indent : Nat) (s : Sheet) : Sheet := (s.indentTo indent).indicate "-" true true

mutual

/-- The sheet with a value; `inTable` says that it stands after a key. -/
def writeNode (indent : Option Nat) (inTable : Bool) : Value → Sheet → Sheet
  | .scalar scalar, s => writeScalar (deeper indent) false scalar s
  | .list [], s => (s.indicate "[" true false).indicate "]" false false
  | .list (v :: rest), s =>
    let n := listIndent indent inTable s
    writeItems n rest (writeNode (some n) false v (startItem n s))
  | .map [], s => (s.indicate "\x7b" true false).indicate "\x7d" false false
  | .map (e :: rest), s =>
    let n := tableIndent indent
    writeEntries n rest (writeEntry n e s)
termination_by structural v => v

/-- The sheet with the items of a list. -/
def writeItems (indent : Nat) : List Value → Sheet → Sheet
  | [], s => s
  | v :: rest, s => writeItems indent rest (writeNode (some indent) false v (startItem indent s))
termination_by structural vs => vs

/-- The sheet with the entry of a table. -/
def writeEntry (indent : Nat) : Scalar × Value → Sheet → Sheet
  | (key, v), s => writeNode (some indent) true v (writeKey indent key (s.indentTo indent))
termination_by structural e => e

/-- The sheet with the entries of a table. -/
def writeEntries (indent : Nat) : List (Scalar × Value) → Sheet → Sheet
  | [], s => s
  | e :: rest, s => writeEntries indent rest (writeEntry indent e s)
termination_by structural es => es

end

/-- Whether a value is written without quotes as a whole document, which is then ended by a
marker. -/
def isOpen : Value → Bool
  | .text text => Kind.ofPlain text == .text && (Traits.ofText text.toList).plain
  | .list _ | .map _ => false
  | _ => true

end Yaml

/-- The value as a YAML document. -/
def Value.toYaml (v : Value) : String :=
  let s := (Yaml.writeNode none false v {}).indentTo 0
  let s := if Yaml.isOpen v then (s.indicate "..." true false).indentTo 0 else s
  String.ofList s.reversed.reverse

end Transclude
