import Transclude.Text.Encoding.Failure

/-!
# UTF-8

Reading stops at the first byte sequence that is no character. The error names the longest beginning
of a character that was found there, or the first byte if none was found.

## Main definitions

* `Utf8.decode` : the characters of bytes.
* `Utf8.encode` : the bytes of characters.
-/

namespace Transclude.Utf8

/-- Whether a byte continues a character. -/
def isContinuation (b : UInt8) : Bool := decide (0x80 ≤ b) && decide (b < 0xC0)

/-- Whether a byte may be the second of a character that starts with `a`. This rules out characters
in more bytes than they need, surrogates, and everything beyond the last code point. -/
def isSecond (a b : UInt8) : Bool :=
  isContinuation b &&
    (if a == 0xE0 then decide (0xA0 ≤ b)
    else if a == 0xED then decide (b < 0xA0)
    else if a == 0xF0 then decide (0x90 ≤ b)
    else if a == 0xF4 then decide (b < 0x90)
    else true)

/-- The six low bits of a byte. -/
def low (b : UInt8) : Nat := b.toNat % 64

/-- An error at a position. -/
def failure (position : Nat) (bytes : List UInt8) (reason : String) :
    Except DecodeError (List Char) :=
  .error ⟨"utf-8", bytes, position, reason⟩

/-- The error of a byte that should continue a character and does not. -/
def notContinued (position : Nat) (bytes : List UInt8) : Except DecodeError (List Char) :=
  failure position bytes "invalid continuation byte"

/-- The reason of an error at the end of the bytes. -/
def unexpectedEnd : String := "unexpected end of data"

/-- The error of a character that the end of the bytes cuts short. -/
def cutShort (position : Nat) (bytes : List UInt8) : Except DecodeError (List Char) :=
  failure position bytes unexpectedEnd

/-- The characters of bytes that start at a position. -/
def decodeFrom (position : Nat) : List UInt8 → Except DecodeError (List Char)
  | [] => .ok []
  | a :: rest =>
    if a < 0x80 then
      (decodeFrom (position + 1) rest).map (Char.ofNat a.toNat :: ·)
    else if a < 0xC2 || 0xF4 < a then failure position [a] "invalid start byte"
    else match rest with
      | [] => cutShort position [a]
      | b :: rest =>
        if !isSecond a b then notContinued position [a]
        else if a < 0xE0 then
          (decodeFrom (position + 2) rest).map (Char.ofNat ((a.toNat - 0xC0) * 64 + low b) :: ·)
        else match rest with
          | [] => cutShort position [a, b]
          | c :: rest =>
            if !isContinuation c then notContinued position [a, b]
            else if a < 0xF0 then
              (decodeFrom (position + 3) rest).map
                (Char.ofNat (((a.toNat - 0xE0) * 64 + low b) * 64 + low c) :: ·)
            else match rest with
              | [] => cutShort position [a, b, c]
              | d :: rest =>
                if !isContinuation d then notContinued position [a, b, c]
                else
                  (decodeFrom (position + 4) rest).map
                    (Char.ofNat ((((a.toNat - 0xF0) * 64 + low b) * 64 + low c) * 64 + low d) :: ·)

/-- The characters of bytes. -/
def decode (bytes : List UInt8) : Except DecodeError (List Char) := decodeFrom 0 bytes

/-- The number of bytes in a block. -/
def blockSize : Nat := 8192

/-- The characters of bytes that are read block by block. What a block leaves unfinished is put
before the next one, and an error tells the position in what is read then. -/
def decodeBlocks (unfinished : List UInt8) : List UInt8 → Except DecodeError (List Char)
  | [] => decode unfinished
  | b :: bytes =>
    let block := unfinished ++ (b :: bytes).take blockSize
    let rest := (b :: bytes).drop blockSize
    match decode block with
    | .ok s => (decodeBlocks [] rest).map (s ++ ·)
    | .error e =>
      if e.reason == unexpectedEnd then
        match decode (block.take e.position) with
        | .ok s => (decodeBlocks (block.drop e.position) rest).map (s ++ ·)
        | .error e => .error e
      else .error e
termination_by bytes => bytes.length
decreasing_by all_goals simp only [List.length_cons, List.length_drop, blockSize]; omega

/-- The bytes of characters. -/
def encode (s : List Char) : List UInt8 := s.flatMap String.utf8EncodeChar

/-- The byte-order mark. -/
def mark : List UInt8 := [0xEF, 0xBB, 0xBF]

end Transclude.Utf8
