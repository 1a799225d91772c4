/-!
# Failures of encodings

What can go wrong when bytes are read or text is written.

## Main definitions

* `DecodeError` : bytes that an encoding does not allow.
* `EncodeError` : characters that an encoding does not have.
-/

namespace Transclude

/-- Bytes that an encoding does not allow: the encoding's name, the bytes, the position of the first
of them, and the reason. -/
structure DecodeError where
  encoding : String
  bytes : List UInt8
  position : Nat
  reason : String
  deriving DecidableEq, Repr

/-- The error in words. -/
def DecodeError.message (e : DecodeError) : String :=
  match e.bytes with
  | [b] =>
    let hex := String.ofList ((if b.toNat < 16 then ['0'] else []) ++ Nat.toDigits 16 b.toNat)
    s!"'{e.encoding}' codec can't decode byte 0x{hex} in position {e.position}: {e.reason}"
  | _ =>
    let last := e.position + e.bytes.length - 1
    s!"'{e.encoding}' codec can't decode bytes in position {e.position}-{last}: {e.reason}"

/-- Characters that an encoding does not have: the encoding's name, the characters, the position of
the first of them, and the reason. -/
structure EncodeError where
  encoding : String
  chars : List Char
  position : Nat
  reason : String
  deriving DecidableEq, Repr

end Transclude
