import Transclude.Text.Encoding.Failure

/-!
# UTF-16

Characters as units of two bytes in either order; a character beyond the basic plane is a pair of
surrogates.

## Main definitions

* `Utf16.decode` : the characters of bytes.
* `Utf16.encode` : the bytes of characters.
-/

namespace Transclude.Utf16

/-- The name of the encoding with a byte order. -/
def name (big : Bool) : String := if big then "utf-16-be" else "utf-16-le"

/-- The unit of two bytes. -/
def unit (big : Bool) (a b : UInt8) : Nat :=
  if big then a.toNat * 256 + b.toNat else b.toNat * 256 + a.toNat

/-- The characters of bytes that start at a position. -/
def decodeFrom (big : Bool) (position : Nat) : List UInt8 → Except DecodeError (List Char)
  | [] => .ok []
  | [a] => .error ⟨name big, [a], position, "truncated data"⟩
  | a :: b :: rest =>
    let u := unit big a b
    if u < 0xD800 ∨ 0xE000 ≤ u then
      (decodeFrom big (position + 2) rest).map (Char.ofNat u :: ·)
    else if 0xDC00 ≤ u then .error ⟨name big, [a, b], position, "illegal encoding"⟩
    else match rest with
      | [] => .error ⟨name big, [a, b], position, "unexpected end of data"⟩
      | [c] => .error ⟨name big, [a, b, c], position, "unexpected end of data"⟩
      | c :: d :: rest =>
        let v := unit big c d
        if 0xDC00 ≤ v ∧ v < 0xE000 then
          (decodeFrom big (position + 4) rest).map
            (Char.ofNat (0x10000 + (u - 0xD800) * 1024 + (v - 0xDC00)) :: ·)
        else .error ⟨name big, [a, b], position, "illegal UTF-16 surrogate"⟩

/-- The byte order that a byte-order mark at the start of bytes tells, and what follows the mark. -/
def splitMark : List UInt8 → Option Bool × List UInt8
  | 0xFF :: 0xFE :: rest => (some false, rest)
  | 0xFE :: 0xFF :: rest => (some true, rest)
  | bytes => (none, bytes)

/-- The bytes of a unit. -/
def unitBytes (big : Bool) (u : Nat) : List UInt8 :=
  let high := UInt8.ofNat (u / 256)
  let low := UInt8.ofNat (u % 256)
  if big then [high, low] else [low, high]

/-- The bytes of characters. -/
def encode (big : Bool) (s : List Char) : List UInt8 :=
  s.flatMap fun c =>
    if c.toNat < 0x10000 then unitBytes big c.toNat
    else
      let n := c.toNat - 0x10000
      unitBytes big (0xD800 + n / 1024) ++ unitBytes big (0xDC00 + n % 1024)

end Transclude.Utf16
