/-!
# Surrogates

Two code points that are no characters stand together for a character beyond the basic plane.

## Main definitions

* `Surrogate.charsOf` : the characters of code points.
* `Surrogate.units`   : the code points below 65536 of a character.
-/

namespace Transclude.Surrogate

/-- Whether a code point is the first of a pair. -/
def isFirst (n : Nat) : Bool := decide (0xD800 ≤ n) && decide (n < 0xDC00)

/-- Whether a code point is the second of a pair. -/
def isSecond (n : Nat) : Bool := decide (0xDC00 ≤ n) && decide (n < 0xE000)

/-- The code point of a pair. -/
def join (first second : Nat) : Nat := 0x10000 + (first - 0xD800) * 1024 + (second - 0xDC00)

/-- The character of a code point; the replacement character stands for what is none. -/
def charOf (n : Nat) : Char := if n.isValidChar then Char.ofNat n else '�'

/-- The characters of code points, of which pairs are joined. -/
def charsOf : List Nat → List Char
  | [] => []
  | [n] => [charOf n]
  | n :: m :: rest =>
    if isFirst n && isSecond m then charOf (join n m) :: charsOf rest
    else charOf n :: charsOf (m :: rest)
termination_by points => points.length

/-- The code points below 65536 that stand for a character. -/
def units (c : Char) : List Nat :=
  if c.toNat < 0x10000 then [c.toNat]
  else
    let n := c.toNat - 0x10000
    [0xD800 + n / 1024, 0xDC00 + n % 1024]

end Transclude.Surrogate
