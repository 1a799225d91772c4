import Transclude.Text.Encoding.Utf8
import Transclude.Value.Yaml.Cursor
import Transclude.Value.Yaml.Scalar

/-!
# YAML tokens

A text as a sequence of tokens. Indentation opens and closes lists and tables, so that a token
stands for either. What turns out to be a key when its colon is met has a token put in front of it:
a key that is not marked as one stands on one line and is not longer than 1024 characters.

## Main definitions

* `Yaml.Token`        : a piece of a document.
* `Yaml.Lexer`        : a reading of tokens from a text.
* `Yaml.Token.ofText` : the tokens of a text.
-/

namespace Transclude.Yaml

open Transclude.Text

/-- A piece of a document. -/
inductive Token
  /-- A directive with the version of YAML: its major number. -/
  | version (major : Nat)
  /-- A directive that lets a handle stand for the beginning of tags. -/
  | handle (name lead : String)
  /-- Any other directive. -/
  | pragma
  | documentStart
  | documentEnd
  | openList
  | openTable
  | close
  | openBracket
  | closeBracket
  | openBrace
  | closeBrace
  | comma
  | item
  | key
  | colon
  | alias (name : String)
  | anchor (name : String)
  | tag (handle : Option String) (rest : String)
  | scalar (text : String) (plain : Bool)
  deriving DecidableEq, Repr

/-! ## Words -/

/-- Whether `c` may stand in a name. -/
def isNameChar (c : Char) : Bool :=
  isDigit c || ('A' ≤ c && c ≤ 'Z') || ('a' ≤ c && c ≤ 'z') || c == '-' || c == '_'

/-- Whether `c` may stand in a tag. -/
def isTagChar (c : Char) : Bool :=
  isNameChar c || ";/?:@&=+$,.!~*'()[]".toList.contains c

/-- The name of an anchor, and the place after it. -/
def anchorName? (c : Cursor) : Option (String × Cursor) :=
  let (name, c) := c.span isNameChar
  let ended := match c.rest with
    | [] => true
    | a :: rest => atBlank (a :: rest) || "?:,]\x7d%@`".toList.contains a
  if name.isEmpty || !ended then none else some (String.ofList name, c)

/-- The handle of a tag: names between exclamation marks, or a single mark. -/
def tagHandle? (c : Cursor) : Option (String × Cursor) := do
  let inner ← after? ['!'] c.rest
  if inner.head? == some ' ' then some ("!", c.next)
  else
    let name := inner.takeWhile isNameChar
    if (inner.drop name.length).head? == some '!' then
      some (String.ofList ('!' :: name ++ ['!']), c.skip (name.length + 2))
    else none

/-- The bytes of escapes in a tag, and the rest of the text. -/
def escapedBytes : List Char → Option (List UInt8 × List Char)
  | '%' :: a :: b :: rest =>
    if isHexDigit a && isHexDigit b then
      (escapedBytes rest).map fun (bytes, rest) => (UInt8.ofNat (numberIn 16 [a, b]) :: bytes, rest)
    else none
  | '%' :: _ => none
  | rest => some ([], rest)

/-- The body of a tag, and the rest of the text. The first argument bounds its length. -/
def tagBody : Nat → List Char → Option (List Char × List Char)
  | 0, _ => none
  | _ + 1, [] => some ([], [])
  | fuel + 1, c :: rest =>
    if c == '%' then do
      let (bytes, rest) ← escapedBytes (c :: rest)
      let text ← (Utf8.decode bytes).toOption
      let (more, rest) ← tagBody fuel rest
      pure (text ++ more, rest)
    else if isTagChar c then (tagBody fuel rest).map fun (more, rest) => (c :: more, rest)
    else some ([], c :: rest)

/-- The body of a tag, which is not empty, and the place after it. -/
def tagBody? (c : Cursor) : Option (String × Cursor) := do
  let (body, rest) ← tagBody (c.rest.length + 1) c.rest
  let length := c.rest.length - rest.length
  if length = 0 then none else some (String.ofList body, c.skip length)

/-- The tag that starts here, and the place after it. -/
def tag? (c : Cursor) : Option (Token × Cursor) := do
  let inner := c.rest.drop 1
  let (token, c) ← match inner with
    | '<' :: _ => do
      let (rest, c) ← tagBody? (c.skip 2)
      if c.rest.head? == some '>' then pure (Token.tag none rest, c.next) else none
    | _ =>
      if atBlank inner then pure (Token.tag none "!", c.next)
      else do
        let word := inner.takeWhile fun a => !atSpace [a]
        let (handle, c) ← if word.contains '!' then tagHandle? c else some ("!", c.next)
        let (rest, c) ← tagBody? c
        pure (Token.tag (some handle) rest, c)
  if atSpace c.rest then some (token, c) else none

/-! ## Directives -/

/-- The number at the start of a text, and the place after it. -/
def versionPart (c : Cursor) : Except YamlError (Nat × Cursor) := do
  let (digits, c) := c.span isDigit
  if digits.isEmpty then throw .malformed
  let n ← (Number.ofDigits digits).mapError (YamlError.scalar ∘ .numeral)
  pure (n, c)

/-- The directive that starts here, and the place after its line. -/
def directive (c : Cursor) : Except YamlError (Token × Cursor) := do
  let needed {α : Type} (found : Option α) : Except YamlError α :=
    match found with
    | some a => .ok a
    | none => .error .malformed
  let (name, c) := c.next.span isNameChar
  if name.isEmpty || !atSpace c.rest then throw .malformed
  let (token, c) ←
    if name = "YAML".toList then do
      let (major, c) ← versionPart c.spaces
      if c.rest.head? != some '.' then throw .malformed
      let (_, c) ← versionPart c.next
      if !atSpace c.rest then throw .malformed
      pure (Token.version major, c)
    else if name = "TAG".toList then do
      let (handle, c) ← needed (tagHandle? c.spaces)
      if c.rest.head? != some ' ' then throw .malformed
      let (lead, c) ← needed (tagBody? c.spaces)
      if !atSpace c.rest then throw .malformed
      pure (Token.handle handle lead, c)
    else pure (Token.pragma, (c.span fun a => !endsLine a).2)
  pure (token, ← needed c.lineEnd?)

/-! ## Scalars in quotes -/

/-- The character that a short escape stands for. -/
def shortEscape? (c : Char) : Option Char :=
  ([('0', '\x00'), ('a', '\x07'), ('b', '\x08'), ('t', '\t'), ('\t', '\t'), ('n', '\n'),
    ('v', '\x0b'), ('f', '\x0c'), ('r', '\r'), ('e', '\x1b'), (' ', ' '), ('"', '"'),
    ('\\', '\\'), ('/', '/'), ('N', '\x85'), ('_', '\xa0'), ('L', '\u2028'),
    ('P', '\u2029')].find? fun entry => entry.1 == c).map (·.2)

/-- The number of digits of a long escape. -/
def escapeWidth? (c : Char) : Option Nat :=
  if c == 'x' then some 2 else if c == 'u' then some 4 else if c == 'U' then some 8 else none

/-- The character of a code point. -/
def charOf (n : Nat) : Except YamlError Char :=
  if n.isValidChar then .ok (Char.ofNat n)
  else if n ≤ 0x10FFFF then .error .malformed
  else .error (.scalar (.codePoint n))

/-- What an escape stands for, and the place after it. An escaped line break stands for the empty
lines after it. -/
def escape (c : Cursor) : Except YamlError (List Char × Cursor) :=
  match c.rest.drop 1 with
  | [] => .error .malformed
  | e :: digits =>
    match shortEscape? e, escapeWidth? e with
    | some short, _ => .ok ([short], c.skip 2)
    | none, some width =>
      if digits.length < width || !(digits.take width).all isHexDigit then .error .malformed
      else
        (charOf (numberIn 16 (digits.take width))).map fun long => ([long], c.skip (width + 2))
    | none, none =>
      if endsLine e then
        let (breaks, n) := breakRun Stamp.isGap true digits
        let c := c.skip (n + 2)
        if c.column == 0 && startsAnyMarker c.rest then .error .malformed else .ok (breaks, c)
      else .error .malformed

/-- The text up to the closing quote, and the place after it. The first argument bounds the number
of characters. -/
def quoted (quote : Char) : Nat → Cursor → Except YamlError (List Char × Cursor)
  | 0, _ => .error .malformed
  | fuel + 1, c =>
    match c.rest with
    | [] => .error .malformed
    | a :: rest =>
      let continued (text : List Char) (c : Cursor) : Except YamlError (List Char × Cursor) :=
        (quoted quote fuel c).map fun (more, c) => (text ++ more, c)
      if a == quote then
        if quote == '\'' && rest.head? == some '\'' then continued ['\''] (c.skip 2)
        else .ok ([], c.next)
      else if a == '\\' && quote == '"' then
        match escape c with
        | .error e => .error e
        | .ok (text, c) => continued text c
      else if Stamp.isGap a then
        let (blanks, after) := c.span Stamp.isGap
        continued (if atLineEnd after.rest then [] else blanks) after
      else if endsLine a then
        let (breaks, n) := breakRun Stamp.isGap true rest
        let c := c.skip (n + 1)
        if c.column == 0 && startsAnyMarker c.rest then .error .malformed
        else continued (folded (asBreak a :: breaks)) c
      else continued [a] c.next

/-! ## Plain scalars -/

/-- Whether `c` is an indicator of flow style that ends a plain scalar there. -/
def endsFlowWord (c : Char) : Bool := [',', '?', '[', ']', '\x7b', '\x7d'].contains c

/-- Whether a plain scalar can start here. -/
def startsPlain (inFlow : Bool) : List Char → Bool
  | [] => false
  | c :: rest =>
    if c == '-' then !atBlank rest
    else if c == '?' || c == ':' then !inFlow && !atBlank rest
    else !(atBlank [c] || ",[]\x7b\x7d#&*!|>'\"%@`".toList.contains c)

/-- Whether a plain scalar ends before the rest of a text: at a blank, at a colon before one, and in
flow style also at its indicators. -/
def endsWord (inFlow : Bool) : List Char → Bool
  | [] => true
  | c :: rest =>
    atBlank [c] || (inFlow && endsFlowWord c) ||
      (c == ':' && (atBlank rest || (inFlow && (rest.head?.map fun d =>
        [',', '[', ']', '\x7b', '\x7d'].contains d).getD false)))

/-- The characters of a plain scalar up to the next blank. -/
def word (inFlow : Bool) : List Char → List Char
  | [] => []
  | c :: rest => if endsWord inFlow (c :: rest) then [] else c :: word inFlow rest

/-- What separates the words of a plain scalar here, the place after it, and whether that is on
another line. Nothing separates words if a document marker is met. -/
def wordGap (c : Cursor) : List Char × Cursor × Bool :=
  let (blanks, c) := c.span (· == ' ')
  match c.rest with
  | a :: rest =>
    if endsLine a then
      let (breaks, n) := breakRun (· == ' ') true rest
      let c := c.skip (n + 1)
      if c.column == 0 && startsAnyMarker c.rest then ([], c, true)
      else (folded (asBreak a :: breaks), c, true)
    else (blanks, c, false)
  | [] => (blanks, c, false)

/-- The rest of a plain scalar after a gap, the place after it and the blanks that follow, and
whether that is on another line than the last word. Outside of flow style its lines are indented at
least to the given column. The first argument bounds the number of words. -/
def wordsFrom (inFlow : Bool) (indent : Int) :
    Nat → List Char → Bool → Cursor → List Char × Cursor × Bool
  | 0, _, fresh, c => ([], c, fresh)
  | fuel + 1, gap, fresh, c =>
    let text := word inFlow c.rest
    if text.isEmpty || c.rest.head? == some '#' then ([], c, fresh)
    else
      let (next, after, fresh) := wordGap (c.skip text.length)
      if next.isEmpty || (!inFlow && decide ((after.column : Int) < indent)) then
        (gap ++ text, after, fresh)
      else
        let (more, last, fresh) := wordsFrom inFlow indent fuel next fresh after
        (gap ++ text ++ more, last, fresh)

/-! ## Block scalars -/

/-- What happens to the line breaks at the end of a block scalar. -/
inductive Chomping
  | strip
  | clip
  | keep
  deriving DecidableEq, Repr

/-- The chomping that a character asks for. -/
def Chomping.ofChar? (c : Char) : Option Chomping :=
  if c == '-' then some .strip else if c == '+' then some .keep else none

/-- The indentation that a character asks for; zero is none. -/
def indentOf? (c : Char) : Option Nat :=
  if isDigit c && c != '0' then some (digitOf c) else none

/-- The chomping and the indentation in the header of a block scalar, in either order, and the place
after its line. -/
def blockHeader? (c : Cursor) : Option (Chomping × Option Nat × Cursor) := do
  let (marks, c) := c.span fun a => a == '+' || a == '-' || isDigit a
  let (chomping, indent) ← match marks with
    | [] => some (.clip, none)
    | [a] =>
      match Chomping.ofChar? a, indentOf? a with
      | some chomping, _ => some (chomping, none)
      | none, some n => some (.clip, some n)
      | none, none => none
    | [a, b] =>
      match Chomping.ofChar? a, indentOf? b, Chomping.ofChar? b, indentOf? a with
      | some chomping, some n, _, _ => some (chomping, some n)
      | _, _, some chomping, some n => some (chomping, some n)
      | _, _, _, _ => none
    | _ => none
  if atSpace c.rest then (c.lineEnd?).map (chomping, indent, ·) else none

/-- The empty lines here, the greatest column that is reached in them, and the place after them. -/
def leadingLines (c : Cursor) : List Char × Nat × Cursor :=
  let lines := c.rest.takeWhile fun a => a == ' ' || endsLine a
  let deepest := (fields endsLine lines).foldl (fun n line => max n line.length) 0
  ((lines.filter endsLine).map asBreak, deepest, c.skip lines.length)

/-- The empty lines here in a block of a given width, and the place after them. The first argument
bounds their number. -/
def emptyLines (width : Nat) : Nat → Cursor → List Char × Cursor
  | 0, c => ([], c)
  | fuel + 1, c =>
    let blanks := (c.rest.takeWhile (· == ' ')).length
    let c := c.skip (min blanks (width - c.column))
    match c.lineBreak with
    | ([], c) => ([], c)
    | (found, c) =>
      let (more, c) := emptyLines width fuel c
      (found ++ more, c)

/-- The lines of a block after some empty ones, the break after the last of them and the empty lines
after that, and the place after all. The first argument bounds the number of lines. -/
def blockLines (fold : Bool) (width : Nat) :
    Nat → List Char → Cursor → List Char × List Char × List Char × Cursor
  | 0, breaks, c => ([], [], breaks, c)
  | fuel + 1, breaks, c =>
    if c.column != width || c.rest.isEmpty then ([], [], breaks, c)
    else
      let isIndented (s : List Char) : Bool := (s.head?.map Stamp.isGap).getD false
      let (line, after) := c.span fun a => !endsLine a
      let (found, after) := after.lineBreak
      let (empty, after) := emptyLines width (after.rest.length + 1) after
      let text := breaks ++ line
      if after.column != width || after.rest.isEmpty then (text, found, empty, after)
      else
        let joint :=
          if fold && found == ['\n'] && !isIndented c.rest && !isIndented after.rest then
            if empty.isEmpty then [' '] else []
          else found
        let (more, found, empty, last) := blockLines fold width fuel empty after
        (text ++ joint ++ more, found, empty, last)

/-- The block scalar whose header starts here, and the place after it. -/
def blockScalar? (fold : Bool) (indent : Int) (c : Cursor) : Option (List Char × Cursor) := do
  let (chomping, given, c) ← blockHeader? c
  let bound := c.rest.length + 1
  let least := (max (indent + 1) 1).toNat
  let (breaks, width, c) := match given with
    | none =>
      let (breaks, deepest, c) := leadingLines c
      (breaks, max least deepest, c)
    | some n =>
      let (breaks, c) := emptyLines (least + n - 1) bound c
      (breaks, least + n - 1, c)
  let (text, found, empty, c) := blockLines fold width bound breaks c
  let ending := match chomping with
    | .strip => []
    | .clip => found
    | .keep => found ++ empty
  pure (text ++ ending, c)

/-! ## Readings -/

/-- A place where a key may turn out to start, and the number of tokens before it. A required one
has to become a key. -/
structure KeyPlace where
  tokens : Nat
  required : Bool
  index : Nat
  line : Nat
  column : Nat

/-- A reading of tokens: the place that is reached, the tokens so far in reverse, the column of the
block and of those around it, the number of brackets that are open, whether a key may start here,
and for each number of brackets where one may have started. -/
structure Lexer where
  place : Cursor
  tokens : List Token := []
  count : Nat := 0
  indent : Int := -1
  outer : List Int := []
  level : Nat := 0
  keyAllowed : Bool := true
  keys : List (Nat × KeyPlace) := []

namespace Lexer

/-- The greatest length of a key that is not marked as one. -/
def longestKey : Nat := 1024

/-- The reading with a token added. -/
def emit (l : Lexer) (t : Token) : Lexer :=
  { l with tokens := t :: l.tokens, count := l.count + 1 }

/-- The reading with a token put after the first `n` tokens. -/
def emitAt (l : Lexer) (n : Nat) (t : Token) : Lexer :=
  let later := l.count - n
  { l with tokens := l.tokens.take later ++ t :: l.tokens.drop later, count := l.count + 1 }

/-- The reading with the place moved on. -/
def moveTo (l : Lexer) (c : Cursor) : Lexer := { l with place := c }

/-- The reading that allows a key here, or does not. -/
def allowing (l : Lexer) (keyAllowed : Bool) : Lexer := { l with keyAllowed := keyAllowed }

/-- The reading without the places that satisfy a condition as places of keys, none of which may be
required. -/
def forget (l : Lexer) (isOver : Nat × KeyPlace → Bool) : Except YamlError Lexer :=
  if l.keys.any fun k => isOver k && k.2.required then .error .malformed
  else .ok { l with keys := l.keys.filter fun k => !isOver k }

/-- The reading without a place of a key inside the current brackets. -/
def forgetKey (l : Lexer) : Except YamlError Lexer := l.forget fun k => k.1 == l.level

/-- The reading without the places from which the current one is on another line or too far. -/
def forgetStale (l : Lexer) : Except YamlError Lexer :=
  l.forget fun k => k.2.line != l.place.line || decide (longestKey < l.place.index - k.2.index)

/-- The reading that remembers that a key may start here. -/
def rememberKey (l : Lexer) : Except YamlError Lexer :=
  if l.keyAllowed then do
    let l ← l.forgetKey
    let c := l.place
    let required := l.level == 0 && l.indent == c.column
    pure { l with keys := (l.level, ⟨l.count, required, c.index, c.line, c.column⟩) :: l.keys }
  else pure l

/-- The reading with the blocks closed that are indented more than a column. -/
def closeFrom (column : Int) : List Int → Lexer → Lexer
  | [], l => l
  | indent :: outer, l =>
    if l.indent > column then
      closeFrom column outer { l.emit .close with indent := indent, outer := outer }
    else l

/-- The reading with the blocks closed that are indented more than a column. Inside brackets there
are no blocks. -/
def closeTo (l : Lexer) (column : Int) : Lexer :=
  if l.level == 0 then closeFrom column l.outer l else l

/-- The reading with a block opened at a column by a token after the first `n` tokens, unless the
current one is indented as much. Inside brackets there are no blocks. -/
def openAt (l : Lexer) (n column : Nat) (t : Token) : Lexer :=
  if l.level == 0 && decide (l.indent < (column : Int)) then
    { l.emitAt n t with indent := column, outer := l.indent :: l.outer }
  else l

/-- The reading with a marker of documents and what else takes a line of its own there. -/
def atMargin (l : Lexer) (t : Token) (c : Cursor) : Except YamlError Lexer := do
  let l ← (l.closeTo (-1)).forgetKey
  pure (((l.allowing false).emit t).moveTo c)

/-- The reading with a scalar or a part of a node. No key starts after it. -/
def content (l : Lexer) (t : Token) (c : Cursor) : Except YamlError Lexer := do
  let l ← l.rememberKey
  pure (((l.allowing false).emit t).moveTo c)

/-- The reading with an opened bracket. -/
def opened (l : Lexer) (t : Token) : Except YamlError Lexer := do
  let l ← l.rememberKey
  pure ({ l.emit t with level := l.level + 1, keyAllowed := true }.moveTo l.place.next)

/-- The reading with a closed bracket. -/
def closed (l : Lexer) (t : Token) : Except YamlError Lexer := do
  let l ← l.forgetKey
  if l.level == 0 then throw .malformed
  pure ({ l.emit t with level := l.level - 1, keyAllowed := false }.moveTo l.place.next)

/-- The reading with the mark of an item or of a key, which opens a block if it is indented. -/
def marked (l : Lexer) (block mark : Token) (keyAllowed : Bool) : Except YamlError Lexer := do
  if l.level == 0 && !l.keyAllowed then throw .malformed
  let l ← ((l.openAt l.count l.place.column block).allowing keyAllowed).forgetKey
  pure ((l.emit mark).moveTo l.place.next)

/-- The reading with a colon. It makes a key of what may have been one; else the key is empty, or
was marked. -/
def colon (l : Lexer) : Except YamlError Lexer :=
  match l.keys.find? fun k => k.1 == l.level with
  | some (_, k) =>
    let l := { l with keys := l.keys.filter fun k => k.1 != l.level, keyAllowed := false }
    let l := (l.emitAt k.tokens .key).openAt k.tokens k.column .openTable
    pure ((l.emit .colon).moveTo l.place.next)
  | none => l.marked .openTable .colon (l.level == 0)

/-- The reading with a plain scalar. -/
def plain (l : Lexer) : Except YamlError Lexer := do
  let l ← l.rememberKey
  let c := l.place
  let (text, c, fresh) :=
    wordsFrom (l.level != 0) (l.indent + 1) (c.rest.length + 1) [] false c
  pure (((l.allowing fresh).emit (.scalar (String.ofList text) true)).moveTo c)

/-- The reading with a block scalar. -/
def block (l : Lexer) (fold : Bool) : Except YamlError Lexer := do
  let l ← (l.allowing true).forgetKey
  match blockScalar? fold l.indent l.place.next with
  | some (text, c) => pure ((l.emit (.scalar (String.ofList text) false)).moveTo c)
  | none => throw .malformed

/-- The reading with a scalar in quotes. -/
def quotation (l : Lexer) (quote : Char) : Except YamlError Lexer := do
  let (text, c) ← quoted quote (l.place.rest.length + 1) l.place.next
  l.content (.scalar (String.ofList text) false) c

/-- The reading with a token that was found, if it was. -/
def contentOf (l : Lexer) (found : Option (Token × Cursor)) : Except YamlError Lexer :=
  match found with
  | some (t, c) => l.content t c
  | none => .error .malformed

/-- The reading with the token that starts with `a`, before the rest of the text. -/
def token (l : Lexer) (a : Char) (rest : List Char) : Except YamlError Lexer :=
  let c := l.place
  let inFlow := l.level != 0
  let margin := c.column == 0
  if a == '%' && margin then do
    let (t, c) ← directive c
    l.atMargin t c
  else if margin && startsMarker '-' c.rest then l.atMargin .documentStart (c.skip 3)
  else if margin && startsMarker '.' c.rest then l.atMargin .documentEnd (c.skip 3)
  else if a == '[' then l.opened .openBracket
  else if a == '\x7b' then l.opened .openBrace
  else if a == ']' then l.closed .closeBracket
  else if a == '\x7d' then l.closed .closeBrace
  else if a == ',' then do
    let l ← (l.allowing true).forgetKey
    pure ((l.emit .comma).moveTo c.next)
  else if a == '-' && atBlank rest then l.marked .openList .item true
  else if a == '?' && (inFlow || atBlank rest) then l.marked .openTable .key (!inFlow)
  else if a == ':' && (inFlow || atBlank rest) then l.colon
  else if a == '*' then l.contentOf ((anchorName? c.next).map fun (name, c) => (.alias name, c))
  else if a == '&' then l.contentOf ((anchorName? c.next).map fun (name, c) => (.anchor name, c))
  else if a == '!' then l.contentOf (tag? c)
  else if a == '|' && !inFlow then l.block false
  else if a == '>' && !inFlow then l.block true
  else if a == '\'' || a == '"' then l.quotation a
  else if startsPlain inFlow c.rest then l.plain
  else .error .malformed

/-- The reading at the start of the next token. A key may start on a new line. -/
def atToken (l : Lexer) : Except YamlError Lexer := do
  let c := l.place.gap
  let l := if c.line != l.place.line && l.level == 0 then l.allowing true else l
  let l ← (l.moveTo c).forgetStale
  pure (l.closeTo c.column)

/-- The tokens of the rest of a text. The first argument bounds their number. -/
def run : Nat → Lexer → Except YamlError (List Token)
  | 0, _ => .error .malformed
  | fuel + 1, l => do
    let l ← l.atToken
    match l.place.rest with
    | [] => do
      let l ← (l.closeTo (-1)).forgetKey
      pure l.tokens.reverse
    | a :: rest => run fuel (← l.token a rest)

end Lexer

/-- Whether `c` may stand in a document. -/
def isReadable (c : Char) : Bool :=
  let n := c.toNat
  n == 9 || n == 10 || n == 13 || (32 ≤ n && n ≤ 126) || n == 0x85 || (0xA0 ≤ n && n ≤ 0xD7FF) ||
    (0xE000 ≤ n && n ≤ 0xFFFD) || 0x10000 ≤ n

/-- The tokens of a text whose line breaks are unified. -/
def Token.ofText (s : List Char) : Except YamlError (List Token) :=
  if s.all isReadable then Lexer.run (s.length + 1) { place := { rest := s } }
  else .error .malformed

end Transclude.Yaml
