/-!
# Base 64

Bytes as text: each character of an alphabet of sixty-four stands for six bits. A lenient reading
passes over all other characters and stops after the padding that completes a group of four.

## Main definitions

* `Text.Base64.decode?` : the bytes that a text stands for.
-/

namespace Transclude.Text.Base64

/-- The six bits that `c` stands for. -/
def sextet? (c : Char) : Option Nat :=
  if 'A' ≤ c && c ≤ 'Z' then some (c.toNat - 65)
  else if 'a' ≤ c && c ≤ 'z' then some (c.toNat - 71)
  else if '0' ≤ c && c ≤ '9' then some (c.toNat + 4)
  else if c == '+' then some 62
  else if c == '/' then some 63
  else none

/-- The bytes of the rest of a text. Of the current group `count` characters have been read, whose
bits that belong to no byte yet are `held`, and then `pads` signs of padding. -/
def decodeFrom (count held pads : Nat) : List Char → Option (List UInt8)
  | [] => if count = 0 then some [] else none
  | c :: rest =>
    if c == '=' then
      if 2 ≤ count && 4 ≤ count + pads + 1 then some []
      else decodeFrom count held (if 2 ≤ count then pads + 1 else pads) rest
    else
      match sextet? c with
      | none => decodeFrom count held pads rest
      | some n =>
        let bits := held * 64 + n
        match count with
        | 0 => decodeFrom 1 n 0 rest
        | 1 => (decodeFrom 2 (bits % 16) 0 rest).map (UInt8.ofNat (bits / 16) :: ·)
        | 2 => (decodeFrom 3 (bits % 4) 0 rest).map (UInt8.ofNat (bits / 4) :: ·)
        | _ => (decodeFrom 0 0 0 rest).map (UInt8.ofNat bits :: ·)

/-- The bytes that a text stands for, if its groups are complete. -/
def decode? (s : List Char) : Option (List UInt8) :=
  if s.all fun c => c.toNat < 128 then decodeFrom 0 0 0 s else none

end Transclude.Text.Base64
