import Transclude.Text.Base64
import Transclude.Text.Encoding.Failure
import Transclude.Text.Encoding.Surrogate

/-!
# UTF-7

ASCII characters stand for themselves. All others are written in UTF-16, in stretches of base 64
between a plus sign and a minus sign, where the minus sign may be missing before a character that
is not of base 64.

## Main definitions

* `Utf7.decode` : the characters of bytes.
* `Utf7.encode` : the bytes of characters.
-/

namespace Transclude.Utf7

open Transclude.Text

/-- A stretch of base 64 that is being read: its position and bytes from the plus sign on, the bits
that belong to no unit yet, and the first unit of a pair. -/
structure Stretch where
  position : Nat
  bytes : List UInt8
  count : Nat := 0
  held : Nat := 0
  first : Option Nat := none

/-- The six bits of a byte of base 64. -/
def sextet? (b : UInt8) : Option Nat := Base64.sextet? (Char.ofNat b.toNat)

/-- The error of a stretch that ends before a position. -/
def Stretch.failure (s : Stretch) (stop : Nat) (reason : String) :
    Except DecodeError (List Nat) :=
  .error ⟨"utf7", s.bytes.take (stop - s.position), s.position, reason⟩

/-- The stretch after six more bits, and the code points that they complete. -/
def Stretch.add (s : Stretch) (bits : Nat) : Stretch × List Nat :=
  let count := s.count + 6
  let held := s.held * 64 + bits
  if count < 16 then ({ s with count := count, held := held }, [])
  else
    let left := count - 16
    let unit := held / Nat.pow 2 left
    let s := { s with count := left, held := held % Nat.pow 2 left }
    match s.first with
    | some first =>
      if Surrogate.isSecond unit then ({ s with first := none }, [Surrogate.join first unit])
      else if Surrogate.isFirst unit then ({ s with first := some unit }, [first])
      else ({ s with first := none }, [first, unit])
    | none =>
      if Surrogate.isFirst unit then ({ s with first := some unit }, []) else (s, [unit])

/-- The code points of bytes that start at a position, perhaps inside a stretch. -/
def decodeFrom (position : Nat) (stretch : Option Stretch) (bytes : List UInt8) :
    Except DecodeError (List Nat) :=
  match stretch, bytes with
  | none, [] => .ok []
  | none, a :: rest =>
    if a == 0x2B then
      match rest.head? with
      | none => .ok []
      | some b =>
        if b == 0x2D then (decodeFrom (position + 2) none (rest.drop 1)).map (0x2B :: ·)
        else if (sextet? b).isNone then
          .error ⟨"utf7", [a, b], position, "ill-formed sequence"⟩
        else decodeFrom (position + 1) (some ⟨position, a :: rest, 0, 0, none⟩) rest
    else if a < 0x80 then (decodeFrom (position + 1) none rest).map (a.toNat :: ·)
    else .error ⟨"utf7", [a], position, "unexpected special character"⟩
  | some s, [] =>
    if s.first.isSome || 6 ≤ s.count || (0 < s.count && s.held != 0) then
      s.failure position "unterminated shift sequence"
    else .ok []
  | some s, a :: rest =>
    match sextet? a with
    | some bits =>
      let (s, points) := s.add bits
      (decodeFrom (position + 1) (some s) rest).map (points ++ ·)
    | none =>
      if 6 ≤ s.count then
        s.failure (position + 1) "partial character in shift sequence"
      else if 0 < s.count && s.held != 0 then
        s.failure (position + 1) "non-zero padding bits in shift sequence"
      else
        let points := if a < 0x80 then s.first.toList else []
        if a == 0x2D then (decodeFrom (position + 1) none rest).map (points ++ ·)
        else (decodeFrom position none (a :: rest)).map (points ++ ·)
termination_by 2 * bytes.length + stretch.toList.length
decreasing_by
  all_goals
    simp only [Option.toList_none, Option.toList_some, List.length_nil, List.length_cons,
      List.length_drop]
    omega

/-- The characters of bytes. -/
def decode (bytes : List UInt8) : Except DecodeError (List Char) :=
  (decodeFrom 0 none bytes).map Surrogate.charsOf

/-- The characters beside letters and digits that stand for themselves outside a stretch. -/
def directSigns : List Char := "'(),-./:? \t\n\r!\"#$%&*;<=>@[]^_`\x7b|\x7d".toList

/-- Whether a character stands for itself. -/
def isDirect (c : Char) : Bool := c.isAlphanum || directSigns.contains c

/-- The characters of base 64, by their six bits. -/
def alphabet : List Char :=
  "ABCDEFGHIJKLMNOPQRSTUVWXYZabcdefghijklmnopqrstuvwxyz0123456789+/".toList

/-- The character of six bits. -/
def digit (n : Nat) : Char := alphabet[n % 64]?.getD 'A'

/-- The characters of base 64 for units of 16 bits after `count` bits that are `held`, with zeros at
the end. -/
def digits (count held : Nat) : List Nat → List Char
  | [] => if count = 0 then [] else [digit (held * Nat.pow 2 (6 - count))]
  | unit :: rest =>
    let bits := held * 65536 + unit
    if count = 0 then digit (bits / 1024) :: digit (bits / 16) :: digits 4 (bits % 16) rest
    else if count = 2 then
      digit (bits / 4096) :: digit (bits / 64) :: digit bits :: digits 0 0 rest
    else digit (bits / 16384) :: digit (bits / 256) :: digit (bits / 4) :: digits 2 (bits % 4) rest

/-- A stretch as text, with what follows it. The minus sign stands at its end where the text would
go on with a character of base 64 or a minus sign, or ends. -/
def stretchText (units : List Nat) (rest : List Char) : List Char :=
  let closed :=
    match rest with
    | [] => true
    | c :: _ => (Base64.sextet? c).isSome || c == '-'
  '+' :: digits 0 0 units ++ (if closed then ['-'] else [])

/-- The ASCII characters of a text. The units of the stretch before it are given. -/
def writtenFrom (units : List Nat) : List Char → List Char
  | [] => if units.isEmpty then [] else stretchText units []
  | c :: rest =>
    if isDirect c then
      (if units.isEmpty then [] else stretchText units (c :: rest)) ++ c :: writtenFrom [] rest
    else if c == '+' && units.isEmpty then '+' :: '-' :: writtenFrom [] rest
    else writtenFrom (units ++ Surrogate.units c) rest

/-- The bytes of characters. -/
def encode (s : List Char) : List UInt8 :=
  (writtenFrom [] s).map fun c => UInt8.ofNat c.toNat

end Transclude.Utf7
