import Transclude.Value.Display

/-!
# Writing JSON

Values as JSON text. A style says how deep levels are indented, or that everything stands on one
line, whether characters beyond ASCII are escaped, and whether the entries of a table are put in
the order of their names.
-/

namespace Transclude

/-- How JSON is laid out. Without an indentation the text is one line. -/
structure JsonStyle where
  indent : Option String := none
  asciiOnly : Bool := false
  sortKeys : Bool := false

/-- Numbers in JSON: positional from `0.0001` to below ten to the sixteenth. -/
def jsonNumber : DecimalFormat :=
  { lowest := -4, highest := 16, infinity := "Infinity", pointedMantissa := false }

namespace Scalar

/-- The escape of a code point in the basic plane. -/
def jsonUnit (n : Nat) : List Char := '\\' :: 'u' :: Text.hexDigits 4 n

/-- A character as it stands in a JSON string. A character beyond the basic plane is escaped as a
pair of surrogates. -/
def jsonChar (asciiOnly : Bool) (c : Char) : List Char :=
  if c == '"' then ['\\', '"']
  else if c == '\\' then ['\\', '\\']
  else if c == '\n' then ['\\', 'n']
  else if c == '\r' then ['\\', 'r']
  else if c == '\t' then ['\\', 't']
  else if c == '\x08' then ['\\', 'b']
  else if c == '\x0c' then ['\\', 'f']
  else if c.toNat < 32 then jsonUnit c.toNat
  else if asciiOnly && decide (127 ≤ c.toNat) then
    if c.toNat < 65536 then jsonUnit c.toNat
    else
      let n := c.toNat - 65536
      jsonUnit (0xD800 + n / 1024) ++ jsonUnit (0xDC00 + n % 1024)
  else [c]

/-- A string as JSON. -/
def jsonText (asciiOnly : Bool) (s : String) : String :=
  String.ofList ('"' :: s.toList.flatMap (jsonChar asciiOnly) ++ ['"'])

/-- The scalar as JSON; what JSON has no form for is written as text. -/
def json (style : JsonStyle) : Scalar → String
  | .null => "null"
  | .bool true => "true"
  | .bool false => "false"
  | .int i => toString i
  | .real x => x.write jsonNumber
  | .nan => "NaN"
  | s => jsonText style.asciiOnly s.asText

/-- The name that a key has in JSON, where all names are texts. -/
def jsonName : Scalar → String
  | .text s => s
  | .date d => d.text
  | .moment m => m.text
  | s => s.json {}

end Scalar

namespace Value

open Scalar (jsonText)

/-- The line break before an item at the given depth; nothing if everything is on one line. -/
def jsonBreak (style : JsonStyle) (depth : Nat) : String :=
  match style.indent with
  | none => ""
  | some unit => "\n" ++ String.join (List.replicate depth unit)

/-- The given pieces between brackets, each at the given depth. -/
def jsonGroup (style : JsonStyle) (opening closing : String) (depth : Nat)
    (pieces : List String) : String :=
  if pieces.isEmpty then opening ++ closing
  else
    let separator := match style.indent with
      | none => ", "
      | some _ => "," ++ jsonBreak style (depth + 1)
    opening ++ jsonBreak style (depth + 1) ++ separator.intercalate pieces ++
      jsonBreak style depth ++ closing

/-- The pieces with the least name first, if the style asks for that. -/
def jsonOrder (style : JsonStyle) (pieces : List (String × String)) : List String :=
  let ordered := if style.sortKeys then pieces.mergeSort fun a b => decide (a.1 ≤ b.1) else pieces
  ordered.map (·.2)

mutual

/-- The value as JSON, at the given depth. -/
def jsonAt (style : JsonStyle) (depth : Nat) : Value → String
  | .scalar s => s.json style
  | .list items => jsonGroup style "[" "]" depth (jsonItems style (depth + 1) items)
  | .map entries =>
    jsonGroup style "\x7b" "\x7d" depth (jsonOrder style (jsonEntries style (depth + 1) entries))
termination_by structural v => v

/-- The items of a list as JSON. -/
def jsonItems (style : JsonStyle) (depth : Nat) : List Value → List String
  | [] => []
  | v :: rest => v.jsonAt style depth :: jsonItems style depth rest
termination_by structural items => items

/-- The entries of a table as JSON, each with its name. -/
def jsonEntries (style : JsonStyle) (depth : Nat) :
    List (Scalar × Value) → List (String × String)
  | [] => []
  | e :: rest => jsonEntry style depth e :: jsonEntries style depth rest
termination_by structural entries => entries

/-- An entry of a table as JSON, with its name. -/
def jsonEntry (style : JsonStyle) (depth : Nat) : Scalar × Value → String × String
  | (key, v) =>
    (key.jsonName, jsonText style.asciiOnly key.jsonName ++ ": " ++ v.jsonAt style depth)
termination_by structural e => e

end

/-- The value as JSON text. -/
def toJson (style : JsonStyle) (v : Value) : String := v.jsonAt style 0

end Value

end Transclude
