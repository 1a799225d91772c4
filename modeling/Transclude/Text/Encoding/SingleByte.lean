import Transclude.Text.Encoding.CodePage.Basic
import Transclude.Text.Encoding.Failure

/-!
# Single-byte encodings

Encodings with one byte for each character. A table says what the bytes stand for; of several bytes
for one character the last one is written.

## Main definitions

* `SingleByte.decode` : the characters of bytes.
* `SingleByte.encode` : the bytes of characters.
-/

namespace Transclude

/-- An encoding with one byte for each character: what the bytes stand for, as code points, and the
reason that is given for what the encoding does not have. -/
structure SingleByte where
  name : String
  table : List (Option Nat)
  reason : String

namespace SingleByte

/-- The first 128 code points. -/
def ascii : SingleByte := ⟨"ascii", (List.range 128).map some, "ordinal not in range(128)"⟩

/-- The first 256 code points. -/
def latin1 : SingleByte := ⟨"latin-1", (List.range 256).map some, "ordinal not in range(256)"⟩

/-- A code page. -/
def ofPage (p : CodePage) : SingleByte := ⟨"charmap", p.table, "character maps to <undefined>"⟩

/-- The code point of a byte. -/
def codePoint? (e : SingleByte) (b : UInt8) : Option Nat := (e.table[b.toNat]?).join

/-- The byte of a character. -/
def byte? (e : SingleByte) (c : Char) : Option UInt8 :=
  (e.table.reverse.findIdx? (· == some c.toNat)).map fun i => UInt8.ofNat (e.table.length - 1 - i)

/-- The characters of bytes that start at a position. -/
def decodeFrom (e : SingleByte) (position : Nat) : List UInt8 → Except DecodeError (List Char)
  | [] => .ok []
  | b :: rest =>
    match e.codePoint? b with
    | some n => (decodeFrom e (position + 1) rest).map (Char.ofNat n :: ·)
    | none => .error ⟨e.name, [b], position, e.reason⟩

/-- The characters of bytes. -/
def decode (e : SingleByte) (bytes : List UInt8) : Except DecodeError (List Char) :=
  e.decodeFrom 0 bytes

/-- The bytes of characters that start at a position. The error names all characters in a row that
the encoding does not have. -/
def encodeFrom (e : SingleByte) (position : Nat) : List Char → Except EncodeError (List UInt8)
  | [] => .ok []
  | c :: rest =>
    match e.byte? c with
    | some b => (encodeFrom e (position + 1) rest).map (b :: ·)
    | none =>
      .error ⟨e.name, c :: rest.takeWhile fun d => (e.byte? d).isNone, position, e.reason⟩

/-- The bytes of characters. -/
def encode (e : SingleByte) (s : List Char) : Except EncodeError (List UInt8) := e.encodeFrom 0 s

end SingleByte

end Transclude
