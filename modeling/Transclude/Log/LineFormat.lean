import Transclude.Diagnostic.Journal
import Transclude.Log.Slot
import Transclude.Text.Digit
import Transclude.Text.Split
import Transclude.Text.Word

/-!
# Formats of log lines

A format is a text with slots such as `%(message)s`, in whose place parts of a record stand. Two
percent signs stand for one. A text with anything that looks like a slot is accepted as a format,
but a record has no line if a slot cannot be filled.

## Main definitions

* `LineFormat.ofText?` : the format that a text describes.
* `LineFormat.line?`   : the line of a record.
-/

namespace Transclude

/-- The name of a level in a log line. -/
def LogRecord.levelName (r : LogRecord) : String :=
  match r.level with
  | 0 => "NOTSET"
  | 10 => "DEBUG"
  | 20 => "INFO"
  | 30 => "WARNING"
  | 40 => "ERROR"
  | 50 => "CRITICAL"
  | n => s!"Level {n}"

/-- The part of a record with a given name. -/
def LogRecord.part? (r : LogRecord) (name : String) : Option Part :=
  match name with
  | "levelname" => some (.text r.levelName)
  | "levelno" => some (.number r.level)
  | "message" | "msg" => some (.text r.message)
  | "name" => some (.text r.channel)
  | "threadName" => some (.text "MainThread")
  | "processName" => some (.text "MainProcess")
  | "exc_info" | "exc_text" | "stack_info" => some (.other "None")
  | "args" => some (.other "()")
  | _ => none

/-- A piece of a format. -/
inductive LinePiece
  | literal (c : Char)
  | slot (slot : Slot)
  /-- What follows a percent sign and is no slot. -/
  | broken
  deriving DecidableEq, Repr

/-- A format of log lines. -/
structure LineFormat where
  pieces : List LinePiece
  deriving DecidableEq, Repr

namespace LineFormat

/-- The text of the format in which a line is the message alone. -/
def bare : String := "%(message)s"

/-- The text of the format that is used when none is chosen. -/
def standard : String := "docfold: %(levelname)s: %(message)s"

/-- The letters that may end what looks like a slot. -/
def letters : List Char := "diouxefgcrsa%DIOUXEFGCRSA\u0130\u0131\u017F".toList

/-- The text after digits or an asterisk. -/
def afterNumber (s : List Char) : List Char :=
  match s with
  | '*' :: rest => rest
  | _ => s.dropWhile Text.isDigit

/-- The text after a point with digits or an asterisk. -/
def afterPrecision (s : List Char) : List Char :=
  match s with
  | '.' :: rest => if (afterNumber rest).length = rest.length then s else afterNumber rest
  | _ => s

/-- Whether a text that follows a percent sign looks like a slot. -/
def looksLikeSlot : List Char → Bool
  | '(' :: s =>
    match Text.cut (· == ')') s with
    | (name, some s) =>
      let after := afterPrecision (afterNumber (s.dropWhile Slot.marks.contains))
      !name.isEmpty && name.all Text.isWord && (after.head?.map letters.contains).getD false
    | (_, none) => false
  | _ => false

/-- Whether a text holds something that looks like a slot. -/
def hasSlot : List Char → Bool
  | [] => false
  | c :: rest => (c == '%' && looksLikeSlot rest) || hasSlot rest

/-- The pieces of a text. The first argument bounds their number. -/
def piecesOf : Nat → List Char → List LinePiece
  | 0, _ | _, [] => []
  | fuel + 1, '%' :: '%' :: rest => .literal '%' :: piecesOf fuel rest
  | fuel + 1, '%' :: rest =>
    match Slot.read? rest with
    | some (slot, rest) => .slot slot :: piecesOf fuel rest
    | none => [.broken]
  | fuel + 1, c :: rest => .literal c :: piecesOf fuel rest

/-- The format that a text describes. A text without any slot describes none, and the empty text
is short for the message alone. -/
def ofText? (text : String) : Option LineFormat :=
  let s := (if text = "" then bare else text).toList
  if hasSlot s then some ⟨piecesOf s.length s⟩ else none

/-- What a piece of a format is in the line of a record. -/
def pieceOf? (r : LogRecord) : LinePiece → Option (List Char)
  | .literal c => some [c]
  | .slot slot => (r.part? (String.ofList slot.name)).bind slot.fill?
  | .broken => none

/-- The line of a record, without the line feed, if every slot can be filled. -/
def line? (f : LineFormat) (r : LogRecord) : Option String :=
  (f.pieces.mapM (pieceOf? r)).map fun pieces => String.ofList pieces.flatten

end LineFormat

end Transclude
