import Transclude.Text.Encoding.Failure

/-!
# UTF-32

Characters as units of four bytes in either order.

## Main definitions

* `Utf32.decodeFrom` : the characters of bytes.
* `Utf32.encode`     : the bytes of characters.
-/

namespace Transclude.Utf32

/-- The name of the encoding with a byte order. -/
def name (big : Bool) : String := if big then "utf-32-be" else "utf-32-le"

/-- The number that bytes are, the most significant first. -/
def unit (bytes : List UInt8) : Nat := bytes.foldl (fun n b => 256 * n + b.toNat) 0

/-- The characters of bytes that start at a position. -/
def decodeFrom (big : Bool) (position : Nat) : List UInt8 → Except DecodeError (List Char)
  | a :: b :: c :: d :: rest =>
    let u := unit (if big then [a, b, c, d] else [d, c, b, a])
    let refused (reason : String) : Except DecodeError (List Char) :=
      .error ⟨name big, [a, b, c, d], position, reason⟩
    if 0xD800 ≤ u ∧ u < 0xE000 then
      refused "code point in surrogate code point range(0xd800, 0xe000)"
    else if 0x110000 ≤ u then refused "code point not in range(0x110000)"
    else (decodeFrom big (position + 4) rest).map (Char.ofNat u :: ·)
  | [] => .ok []
  | rest => .error ⟨name big, rest, position, "truncated data"⟩

/-- The byte order that a byte-order mark at the start of bytes tells, and what follows the mark. -/
def splitMark : List UInt8 → Option Bool × List UInt8
  | 0xFF :: 0xFE :: 0 :: 0 :: rest => (some false, rest)
  | 0 :: 0 :: 0xFE :: 0xFF :: rest => (some true, rest)
  | bytes => (none, bytes)

/-- The bytes of a character. -/
def unitBytes (big : Bool) (c : Char) : List UInt8 :=
  let n := c.toNat
  let bytes := [0, UInt8.ofNat (n / 65536), UInt8.ofNat (n / 256), UInt8.ofNat n]
  if big then bytes else bytes.reverse

/-- The bytes of characters. -/
def encode (big : Bool) (s : List Char) : List UInt8 := s.flatMap (unitBytes big)

end Transclude.Utf32
