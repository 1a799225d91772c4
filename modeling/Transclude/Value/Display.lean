import Transclude.Number.Shortest
import Transclude.Text.Shown
import Transclude.Value.Basic

/-!
# Values in messages

How a message shows a value. A text by itself is shown as it is (`Value.asText`); inside a list or
a table, and where a message quotes its value, it stands between quotes (`Value.display`).
-/

namespace Transclude

/-- Numbers in messages: positional from `0.0001` to below ten to the sixteenth. -/
def messageNumber : DecimalFormat :=
  { lowest := -4, highest := 16, infinity := "inf", pointedMantissa := false }

namespace Scalar

/-- A byte as a message quotes it. -/
def byteShown (quote : Char) (b : UInt8) : List Char :=
  let c := Char.ofNat b.toNat
  if b.toNat < 127 then Text.shownChar quote c else '\\' :: 'x' :: Text.hexDigits 2 b.toNat

/-- Bytes as a message quotes them: as a text of ASCII characters and numbers. -/
def bytesShown (content : List UInt8) : String :=
  let quote := if content.contains 39 && !content.contains 34 then '"' else '\''
  String.ofList ('b' :: quote :: content.flatMap (byteShown quote) ++ [quote])

/-- The scalar as a message quotes it. -/
def display : Scalar → String
  | .null => "None"
  | .bool true => "True"
  | .bool false => "False"
  | .int i => toString i
  | .real x => x.write messageNumber
  | .nan => "nan"
  | .date d => d.shown
  | .moment m => m.shown
  | .bytes content => bytesShown content
  | .text s => Text.quoted s

/-- The scalar as text. -/
def asText : Scalar → String
  | .text s => s
  | .date d => d.text
  | .moment m => m.text
  | s => s.display

end Scalar

namespace Value

mutual

/-- The value as a message quotes it. -/
def display : Value → String
  | .scalar s => s.display
  | .list items => "[" ++ ", ".intercalate (displayItems items) ++ "]"
  | .map entries => "\x7b" ++ ", ".intercalate (displayEntries entries) ++ "\x7d"
termination_by structural v => v

/-- The items of a list as a message quotes them. -/
def displayItems : List Value → List String
  | [] => []
  | v :: rest => v.display :: displayItems rest
termination_by structural items => items

/-- The entries of a table as a message quotes them. -/
def displayEntries : List (Scalar × Value) → List String
  | [] => []
  | e :: rest => displayEntry e :: displayEntries rest
termination_by structural entries => entries

/-- An entry of a table as a message quotes it. -/
def displayEntry : Scalar × Value → String
  | (key, v) => key.display ++ ": " ++ v.display
termination_by structural e => e

end

/-- The value as text. -/
def asText : Value → String
  | .scalar s => s.asText
  | v => v.display

end Value

end Transclude
