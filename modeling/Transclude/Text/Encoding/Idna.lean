import Transclude.Text.Encoding.Punycode
import Transclude.Text.LowerCase
import Transclude.Text.Shown

/-!
# Names of domains

A text as the labels of a domain name, which points part. A label with other characters than ASCII
is written in lower case, in Punycode after a mark. Composed characters are taken as they are.

## Main definitions

* `Idna.decode`      : the characters of bytes that are at hand as a whole.
* `Idna.decodeFile`  : the characters of the bytes of a file.
* `Idna.encode`      : the bytes of characters that are at hand as a whole.
* `Idna.encodeFile`  : the bytes of the characters of a file.
-/

namespace Transclude.Idna

open Transclude.Text

/-- What is wrong with a label. -/
inductive Fault
  | length
  | tooLong
  | marked
  | prohibited (c : Char)
  | noRoundTrip (label again : List Char)
  | digits (e : Punycode.Fault)
  deriving DecidableEq, Repr

/-- A label of ASCII characters as it is shown. -/
def shownLabel (label : List Char) : String := "b" ++ String.ofList (shown label)

/-- The fault in words. -/
def Fault.message : Fault → String
  | .length => "label empty or too long"
  | .tooLong => "label too long"
  | .marked => "Label starts with ACE prefix"
  | .prohibited c => s!"Invalid character {quoted (String.singleton c)}"
  | .noRoundTrip label again =>
    s!"('IDNA does not round-trip', {shownLabel label}, {shownLabel again})"
  | .digits e => s!"decoding with 'punycode' codec failed (UnicodeError: {e.message})"

/-- Why a text cannot be read or written: other bytes than ASCII, or a fault. -/
inductive Failure
  | bytes (e : DecodeError)
  | label (e : Fault)
  deriving DecidableEq, Repr

/-- The mark before a label in Punycode. -/
def mark : List Char := "xn--".toList

/-- The characters that part labels. -/
def points : List Char := ['.', '。', '．', '｡']

/-- Code points that are left out of labels. -/
def skippedRanges : List (Nat × Nat) :=
  [(173, 173), (847, 847), (6150, 6150), (6155, 6157), (8203, 8205), (8288, 8288),
   (65024, 65039), (65279, 65279)]

/-- Code points that no label may have: spaces and controls beyond ASCII, and what is for private
use or no character. -/
def prohibitedRanges : List (Nat × Nat) :=
  [(128, 160), (832, 833), (1757, 1757), (1807, 1807), (5760, 5760), (6158, 6158), (8192, 8207),
   (8232, 8239), (8287, 8291), (8298, 8303), (12272, 12283), (12288, 12288), (55296, 63743),
   (64976, 65007), (65279, 65279), (65529, 65535), (119155, 119162), (131070, 131071),
   (196606, 196607), (262142, 262143), (327678, 327679), (393214, 393215), (458750, 458751),
   (524286, 524287), (589822, 589823), (655358, 655359), (720894, 720895), (786430, 786431),
   (851966, 851967), (917502, 917503), (917505, 917505), (917536, 917631), (983038, 1114111)]

/-- Whether a character is in one of several ranges. -/
def isIn (ranges : List (Nat × Nat)) (c : Char) : Bool :=
  ranges.any fun range => decide (range.1 ≤ c.toNat) && decide (c.toNat ≤ range.2)

/-- A character without the difference between small and capital letters. -/
def folded (c : Char) : List Char :=
  if c == 'ß' then ['s', 's']
  else if c == 'ς' then ['σ']
  else if c == 'ſ' then ['s']
  else if c == 'µ' then ['μ']
  else lowerChar c

/-- A label as it is compared with others. -/
def prepared (label : List Char) : Except Fault (List Char) :=
  let label := (label.filter fun c => !isIn skippedRanges c).flatMap folded
  match label.find? (isIn prohibitedRanges) with
  | some c => .error (.prohibited c)
  | none => .ok label

/-- Whether all characters are of ASCII. -/
def isAscii (label : List Char) : Bool := label.all fun c => decide (c.toNat < 128)

/-- A label of a right length. -/
def sized (label : List Char) : Except Fault (List Char) :=
  if label.isEmpty ∨ 64 ≤ label.length then .error .length else .ok label

/-- The ASCII characters of a label. -/
def toAscii (label : List Char) : Except Fault (List Char) :=
  if isAscii label then sized label
  else (prepared label).bind fun label =>
    if isAscii label then sized label
    else if mark.isPrefixOf label then .error .marked
    else sized (mark ++ Punycode.written label)

/-- The bytes of ASCII characters. -/
def bytesOf (s : List Char) : List UInt8 := s.map fun c => UInt8.ofNat c.toNat

/-- The label of ASCII characters. -/
def ofAscii (label : List Char) : Except Failure (List Char) :=
  if mark.isPrefixOf label then
    match Punycode.decode (bytesOf (label.drop mark.length)) with
    | .error (.bytes e) => .error (.bytes e)
    | .error (.digits e) => .error (.label (.digits e))
    | .ok decoded =>
      match toAscii decoded with
      | .error e => .error (.label e)
      | .ok again =>
        if label.map Char.toLower == again then .ok decoded
        else .error (.label (.noRoundTrip label again))
  else .ok label

/-- The parts of a text between separators. -/
def parts (isSeparator : Char → Bool) (s : List Char) : List (List Char) :=
  s.foldr (fun c found =>
    if isSeparator c then [] :: found
    else match found with
      | [] => [[c]]
      | part :: rest => (c :: part) :: rest) [[]]

/-- Labels with points between them, and one after them if they were followed by one. -/
def joined (labels : List (List Char)) (isEnded : Bool) : List Char :=
  [ '.' ].intercalate labels ++ (if isEnded then ['.'] else [])

/-- The characters of labels, each of which is read. -/
def readLabels {ε : Type} (read : List Char → Except ε (List Char)) (labels : List (List Char)) :
    Except ε (List Char) :=
  let isEnded := labels.getLast? == some []
  ((if isEnded then labels.dropLast else labels).mapM read).map (joined · isEnded)

/-- The characters of the bytes of a file. -/
def decodeFile (bytes : List UInt8) : Except Failure (List Char) :=
  match SingleByte.ascii.decode bytes with
  | .error e => .error (.bytes e)
  | .ok s => if s.isEmpty then .ok [] else readLabels ofAscii (parts (· == '.') s)

/-- The characters of a label of bytes. Only what is outside ASCII is refused label by label. -/
def ofBytes (label : List Char) : Except Failure (List Char) :=
  if mark.isPrefixOf label then ofAscii label
  else match SingleByte.ascii.decode (bytesOf label) with
    | .error e => .error (.bytes e)
    | .ok s => .ok s

/-- Whether the mark of Punycode is somewhere in a text. -/
def hasMark : List Char → Bool
  | [] => false
  | c :: rest => mark.isPrefixOf (c :: rest) || hasMark rest

/-- The characters of bytes that are at hand as a whole. -/
def decode (bytes : List UInt8) : Except Failure (List Char) :=
  let s := bytes.map fun b => Char.ofNat b.toNat
  if isAscii s && !hasMark s then .ok s else readLabels ofBytes (parts (· == '.') s)

/-- The bytes of characters that are at hand as a whole. Labels in ASCII are taken as they are, if
they are not too long, and the last of them may be empty. -/
def encode (s : List Char) : Except Fault (List UInt8) :=
  if isAscii s then
    let labels := parts (· == '.') s
    if labels.dropLast.any fun label => label.isEmpty || decide (64 ≤ label.length) then
      .error .length
    else if labels.getLast?.any fun label => decide (64 ≤ label.length) then .error .tooLong
    else .ok (bytesOf s)
  else (readLabels toAscii (parts (points.contains ·) s)).map bytesOf

/-- The bytes of the characters of a file. What follows the last point waits for a further point and
is not written. -/
def encodeFile (s : List Char) : Except Fault (List UInt8) :=
  match (parts (points.contains ·) s).dropLast with
  | [] => .ok []
  | labels => (labels.mapM toAscii).map fun labels => bytesOf (joined labels true)

end Transclude.Idna
