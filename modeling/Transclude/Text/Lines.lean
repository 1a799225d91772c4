import Transclude.Text.Split

/-!
# Lines of a text

A text is cut into lines at line feeds. A line feed at the end of the text ends the last line and
starts no new one, a carriage return before a line feed belongs to the line end, and a byte-order
mark at the start of the text belongs to no line.

## Main definitions

* `Text.splitLines` : the lines of a text.
* `Text.unifiedBreaks` : the text with line feeds as its only line breaks.
* `Text.joinLines`  : the text with the given lines, each of them ended by a line feed.
-/

namespace Transclude.Text

/-- The text without a byte-order mark at its start. -/
def dropMark : List Char → List Char
  | '\uFEFF' :: rest => rest
  | s => s

/-- The line without one carriage return at its end. -/
def dropReturn (line : List Char) : List Char :=
  if line.getLast? = some '\r' then line.dropLast else line

/-- The pieces of a text between line feeds, without the empty piece after a final line feed. -/
def linePieces (s : List Char) : List (List Char) :=
  let pieces := fields (· == '\n') s
  if pieces.getLast? = some [] then pieces.dropLast else pieces

/-- The lines of a text. -/
def splitLines (text : String) : List String :=
  (linePieces (dropMark text.toList)).map fun line => String.ofList (dropReturn line)

/-- The text with every line break written as a line feed: a carriage return counts as a break, with
or without a line feed after it. -/
def unifiedBreaks : List Char → List Char
  | [] => []
  | '\r' :: '\n' :: rest => '\n' :: unifiedBreaks rest
  | '\r' :: rest => '\n' :: unifiedBreaks rest
  | c :: rest => c :: unifiedBreaks rest

/-- The text with the given lines, each of them ended by a line feed. -/
def joinLines (lines : List String) : String :=
  String.join (lines.map (· ++ "\n"))

theorem toList_joinLines (lines : List String) :
    (joinLines lines).toList = lines.flatMap fun line => line.toList ++ ['\n'] := by
  simp [joinLines, String.toList_join, List.flatMap_map]

end Transclude.Text
