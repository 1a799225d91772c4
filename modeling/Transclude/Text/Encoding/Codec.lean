import Transclude.Text.Encoding.Basic
import Transclude.Text.Encoding.Idna
import Transclude.Text.Encoding.SingleByte
import Transclude.Text.Encoding.Utf16
import Transclude.Text.Encoding.Utf32
import Transclude.Text.Encoding.Utf7
import Transclude.Text.Encoding.Utf8
import Transclude.Text.Shown

/-!
# Reading and writing encoded text

## Main definitions

* `EncodingChoice`       : what is given as the encoding of a text.
* `Encoding.decodeFile` : the text of a file's bytes.
* `Encoding.readBytes`  : the text of bytes that are at hand as a whole.
* `Encoding.encode`     : the bytes of a text that is at hand as a whole.
* `Encoding.encodeFile` : the bytes of a file with a text.
-/

namespace Transclude

open Transclude.Text

/-- Why encoded text cannot be read or written. -/
inductive EncodingError
  | unknown (name : String)
  /-- The name is that of a conversion that yields no text; `advice` says what does it instead. -/
  | notText (name : String) (advice : String)
  | decoding (e : DecodeError)
  | encoding (e : EncodeError)
  /-- A file in the encoding of a name does not tell its byte order. -/
  | noByteOrder (name : String)
  /-- The encoding that has no text at all. -/
  | undefined
  /-- The digits of Punycode are wrong. -/
  | punycode (e : Punycode.Fault)
  /-- A label of a domain name is wrong. -/
  | idna (e : Idna.Fault)
  /-- An error in bytes that are at hand as a whole, in the encoding of a name. -/
  | during (name : String) (e : EncodingError)
  /-- Something of the given kind stands where the operation `user` expects something else. -/
  | notAName (user expected kind : String)
  /-- A name that holds the character zero. -/
  | nullInName
  deriving DecidableEq, Repr

/-- The error in words. -/
def EncodeError.message (e : EncodeError) : String :=
  match e.chars with
  | [c] =>
    let escape := String.ofList (numericEscape c)
    s!"'{e.encoding}' codec can't encode character '{escape}' in position {e.position}: {e.reason}"
  | _ =>
    let last := e.position + e.chars.length - 1
    s!"'{e.encoding}' codec can't encode characters in position {e.position}-{last}: {e.reason}"

/-- The error in words. -/
def EncodingError.message : EncodingError → String
  | .unknown name => s!"unknown encoding: {name}"
  | .notText name advice =>
    s!"'{name}' is not a text encoding; use {advice} to handle arbitrary codecs"
  | .decoding e => e.message
  | .encoding e => e.message
  | .noByteOrder name => s!"{name} stream does not start with BOM"
  | .undefined => "undefined encoding"
  | .punycode e => e.message
  | .idna e => e.message
  | .during name e => s!"decoding with '{name}' codec failed (UnicodeError: {e.message})"
  | .notAName user expected kind =>
    s!"{user} argument 'encoding' must be {expected}, not {kind}"
  | .nullInName => "embedded null character"

/-- Whether the problem is one with the bytes or with a name that nobody knows, which a reduction
reports and survives. -/
def EncodingError.isReported : EncodingError → Bool
  | .unknown _ | .notText _ _ | .decoding _ => true
  | _ => false

/-- What is given as the encoding of a text: a name, nothing, or something of another kind. -/
inductive EncodingChoice
  | named (name : String)
  /-- The encoding of the surroundings, which is UTF-8. -/
  | surroundings
  | notAName (kind : String)
  deriving DecidableEq, Repr

namespace Encoding

/-- What is wrong with a choice of the encoding of a file, seen before any file is opened. -/
def problemForFile? : EncodingChoice → Option EncodingError
  | .named name => if name.toList.contains '\x00' then some .nullInName else none
  | .surroundings => none
  | .notAName kind => some (.notAName "open()" "str or None" kind)

/-- What is wrong with a choice of the encoding of bytes that are at hand. -/
def problemForBytes? : EncodingChoice → Option EncodingError
  | .named name => if name.toList.contains '\x00' then some .nullInName else none
  | .surroundings => some (.notAName "decode()" "str" "None")
  | .notAName kind => some (.notAName "decode()" "str" kind)

/-- The encoding of a name, or why there is none. -/
def named (advice name : String) : Except EncodingError Encoding :=
  match ofName name with
  | .known e => .ok e
  | .notText => .error (.notText name advice)
  | .unknown => .error (.unknown name)

/-- The encoding that is chosen for a file. The name `locale` is that of the surroundings. -/
def forFile (choice : EncodingChoice) : Except EncodingError Encoding :=
  match problemForFile? choice, choice with
  | some e, _ => .error e
  | none, .named "locale" => .ok .utf8
  | none, .named name => named "codecs.open()" name
  | none, _ => .ok .utf8

/-- The text of characters, or the error that took their place. -/
def asText (decoded : Except DecodeError (List Char)) : Except EncodingError String :=
  match decoded with
  | .ok s => .ok (String.ofList s)
  | .error e => .error (.decoding e)

/-- The text of labels, or the error that took their place. -/
def ofLabels (decoded : Except Idna.Failure (List Char)) : Except EncodingError String :=
  match decoded with
  | .ok s => .ok (String.ofList s)
  | .error (.bytes e) => .error (.decoding e)
  | .error (.label e) => .error (.idna e)

/-- The text of bytes in an encoding. Without a byte-order mark, UTF-16 and UTF-32 are
little-endian. -/
def decode (e : Encoding) (names : CharacterNames) (bytes : List UInt8) :
    Except EncodingError String :=
  match e with
  | .undefined => .error .undefined
  | .punycode =>
    match Punycode.decode bytes with
    | .ok s => .ok (String.ofList s)
    | .error (.bytes e) => .error (.decoding e)
    | .error (.digits e) => .error (.punycode e)
  | .idna => ofLabels (Idna.decode bytes)
  | e => asText (match e with
    | .utf8 => Utf8.decode bytes
    | .utf8Marked => Utf8.decode (if Utf8.mark.isPrefixOf bytes then bytes.drop 3 else bytes)
    | .utf16 =>
      match Utf16.splitMark bytes with
      | (some big, rest) => Utf16.decodeFrom big 2 rest
      | (none, rest) => Utf16.decodeFrom false 0 rest
    | .utf16Little => Utf16.decodeFrom false 0 bytes
    | .utf16Big => Utf16.decodeFrom true 0 bytes
    | .utf32 =>
      match Utf32.splitMark bytes with
      | (some big, rest) => Utf32.decodeFrom big 4 rest
      | (none, rest) => Utf32.decodeFrom false 0 rest
    | .utf32Little => Utf32.decodeFrom false 0 bytes
    | .utf32Big => Utf32.decodeFrom true 0 bytes
    | .latin1 => SingleByte.latin1.decode bytes
    | .ascii => SingleByte.ascii.decode bytes
    | .page p => (SingleByte.ofPage p).decode bytes
    | .eastAsian e => e.coding.decode bytes
    | .escaped e => e.decode names bytes
    | .utf7 => Utf7.decode bytes
    | .undefined | .punycode | .idna => .ok [])

/-- The text of a file's bytes in an encoding. A file that ends inside the mark of UTF-8 is empty,
and UTF-16 and UTF-32 that have to find their byte order have to start with a mark. -/
def decodeFile (e : Encoding) (names : CharacterNames) (bytes : List UInt8) :
    Except EncodingError String :=
  let marked (isMarked : Bool) (unit : Nat) (name : String) : Except EncodingError String :=
    (e.decode names bytes).bind fun text =>
      if !isMarked && decide (unit ≤ bytes.length) then .error (.noByteOrder name) else .ok text
  match e with
  | .utf8Marked =>
    if bytes.length < 3 && bytes.isPrefixOf Utf8.mark then .ok "" else e.decode names bytes
  | .utf16 => marked (Utf16.splitMark bytes).1.isSome 2 "UTF-16"
  | .utf32 => marked (Utf32.splitMark bytes).1.isSome 4 "UTF-32"
  | .idna => ofLabels (Idna.decodeFile bytes)
  | _ => e.decode names bytes

/-- The text of a file's bytes in the encoding that is chosen. -/
def readFile (names : CharacterNames) (choice : EncodingChoice) (bytes : List UInt8) :
    Except EncodingError String :=
  (forFile choice).bind (·.decodeFile names bytes)

/-- An error as it is told of bytes that are at hand as a whole. -/
def inWhole (name : String) (e : EncodingError) : EncodingError :=
  match e with
  | .undefined | .punycode _ => .during name e
  | .idna (.noRoundTrip _ _) => e
  | .idna _ => .during name e
  | e => e

/-- The text of bytes that are at hand as a whole, in the encoding that is chosen. No bytes are the
empty text under every name. -/
def readBytes (names : CharacterNames) (choice : EncodingChoice) (bytes : List UInt8) :
    Except EncodingError String :=
  match problemForBytes? choice, choice with
  | some e, _ => .error e
  | none, .named name =>
    if bytes.isEmpty then .ok ""
    else (named "codecs.decode()" name).bind fun e =>
      (e.decode names bytes).mapError (inWhole name)
  | none, _ => .ok ""

/-- The bytes of a text in an encoding, of which nothing is left out. -/
def encode (e : Encoding) (text : String) : Except EncodingError (List UInt8) :=
  let s := text.toList
  let single (table : SingleByte) : Except EncodingError (List UInt8) :=
    (table.encode s).mapError .encoding
  match e with
  | .utf8 => .ok (Utf8.encode s)
  | .utf8Marked => .ok (Utf8.mark ++ Utf8.encode s)
  | .utf16 => .ok (0xFF :: 0xFE :: Utf16.encode false s)
  | .utf16Little => .ok (Utf16.encode false s)
  | .utf16Big => .ok (Utf16.encode true s)
  | .utf32 => .ok (0xFF :: 0xFE :: 0 :: 0 :: Utf32.encode false s)
  | .utf32Little => .ok (Utf32.encode false s)
  | .utf32Big => .ok (Utf32.encode true s)
  | .latin1 => single .latin1
  | .ascii => single .ascii
  | .page p => single (.ofPage p)
  | .eastAsian e => (e.coding.encode s).mapError .encoding
  | .escaped e => .ok (e.encode s)
  | .utf7 => .ok (Utf7.encode s)
  | .punycode => .ok (Punycode.encode s)
  | .idna => (Idna.encode s).mapError .idna
  | .undefined => .error .undefined

/-- The bytes of a file with a text in an encoding. A file is never told that the text has ended: a
label of a domain name that no point ends is not written, and no more is what the encodings of
several bytes for a character keep back. -/
def encodeFile (e : Encoding) (text : String) : Except EncodingError (List UInt8) :=
  match e with
  | .eastAsian e => (e.coding.encodeFile text.toList).mapError .encoding
  | .idna => (Idna.encodeFile text.toList).mapError .idna
  | e => e.encode text

/-- The bytes of a file with a text in the encoding that is chosen. -/
def writeFile (choice : EncodingChoice) (text : String) : Except EncodingError (List UInt8) :=
  (forFile choice).bind (·.encodeFile text)

end Encoding

end Transclude
