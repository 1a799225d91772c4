import Transclude.Text.Encoding.SingleByte
import Transclude.Text.Encoding.Surrogate

/-!
# Punycode

The ASCII characters of a text come first. After a minus sign follow digits that say where the other
characters go, in the order of their code points: the differences between their places, as numbers
of variable length whose digits adapt to the size of the numbers before.

## Main definitions

* `Punycode.decode` : the characters of bytes.
* `Punycode.encode` : the bytes of characters.
-/

namespace Transclude.Punycode

/-- What is wrong with the digits of a text. -/
inductive Fault
  | incomplete
  | notADigit (c : Char)
  | beyondUnicode (n : Nat)
  deriving DecidableEq, Repr

/-- The fault in words. -/
def Fault.message : Fault → String
  | .incomplete => "incomplete punicode string"
  | .notADigit c => s!"Invalid extended code point '{c}'"
  | .beyondUnicode n => s!"Invalid character U+{String.ofList (Nat.toDigits 16 n)}"

/-- Why a text cannot be read: other bytes than ASCII, or a fault. -/
inductive Failure
  | bytes (e : DecodeError)
  | digits (e : Fault)
  deriving DecidableEq, Repr

/-- The limit below which the digit at a position ends a number. -/
def limit (position bias : Nat) : Nat :=
  if 36 * (position + 1) ≤ bias + 1 then 1 else min (36 * (position + 1) - bias) 26

theorem one_le_limit (position bias : Nat) : 1 ≤ limit position bias := by
  unfold limit; split <;> omega

/-- The bias that a difference leads to. `divisions` grows by 36 with each division by 35. -/
def biasOf (divisions delta : Nat) : Nat :=
  if 455 < delta then biasOf (divisions + 36) (delta / 35)
  else divisions + 36 * delta / (delta + 38)
termination_by delta
decreasing_by omega

/-- The bias for the next number, after a difference in a text that now has `count` characters. -/
def adapt (delta : Nat) (isFirst : Bool) (count : Nat) : Nat :=
  let delta := if isFirst then delta / 700 else delta / 2
  biasOf 0 (delta + delta / count)

/-- The value of a digit in capitals. -/
def value? (c : Char) : Option Nat :=
  if 'A' ≤ c && c ≤ 'Z' then some (c.toNat - 65)
  else if '0' ≤ c && c ≤ '9' then some (c.toNat - 22)
  else none

/-- The number at the start of digits, and the digits after it. -/
def readNumber (bias position weight result : Nat) :
    List Char → Except Fault (Nat × List Char)
  | [] => .error .incomplete
  | c :: rest =>
    match value? c with
    | none => .error (.notADigit c)
    | some digit =>
      let result := result + digit * weight
      let t := limit position bias
      if digit < t then .ok (result, rest)
      else readNumber bias (position + 1) (weight * (36 - t)) result rest

theorem readNumber_length {bias position weight result : Nat} {s : List Char} {n : Nat}
    {rest : List Char} (h : readNumber bias position weight result s = .ok (n, rest)) :
    rest.length < s.length := by
  induction s generalizing position weight result with
  | nil => simp [readNumber] at h
  | cons c s ih =>
    rw [readNumber] at h
    split at h
    · cases h
    · dsimp only at h
      split at h
      · simp only [Except.ok.injEq, Prod.mk.injEq] at h
        simp [h.2]
      · have := ih h
        simp only [List.length_cons]
        omega

/-- The code points of a text, to which digits add others. Where the last one went is given by its
code point and the place after it. -/
def insert (text : List Nat) (point next bias : Nat) (isFirst : Bool) (digits : List Char) :
    Except Fault (List Nat) :=
  if digits.isEmpty then .ok text
  else
    match h : readNumber bias 0 1 0 digits with
    | .error e => .error e
    | .ok (delta, rest) =>
      let count := text.length + 1
      let place := next + delta
      let point := point + place / count
      if 0x10FFFF < point then .error (.beyondUnicode point)
      else
        let place := place % count
        insert (text.take place ++ point :: text.drop place) point (place + 1)
          (adapt delta isFirst count) false rest
termination_by digits.length
decreasing_by exact readNumber_length h

/-- The bytes before the last minus sign, and those after it. -/
def parts (bytes : List UInt8) : List UInt8 × List UInt8 :=
  let tail := (bytes.reverse.takeWhile (· != 0x2D)).reverse
  (bytes.take (bytes.length - tail.length - 1), tail)

/-- The characters of bytes. -/
def decode (bytes : List UInt8) : Except Failure (List Char) :=
  let (base, digits) := parts bytes
  match SingleByte.ascii.decode base, SingleByte.ascii.decode digits with
  | .error e, _ => .error (.bytes e)
  | _, .error e => .error (.bytes e)
  | .ok base, .ok digits =>
    match insert (base.map Char.toNat) 0x80 0 72 true (digits.map Char.toUpper) with
    | .error e => .error (.digits e)
    | .ok points => .ok (Surrogate.charsOf points)

/-- The digit of a value. -/
def digit (n : Nat) : Char := if n < 26 then Char.ofNat (97 + n) else Char.ofNat (22 + n)

/-- The digits of a number, from a position on. -/
def writeNumber (bias position n : Nat) : List Char :=
  let t := limit position bias
  if n < t then [digit n]
  else digit (t + (n - t) % (36 - t)) :: writeNumber bias (position + 1) ((n - t) / (36 - t))
termination_by n
decreasing_by
  have := one_le_limit position bias
  have : (n - limit position bias) / (36 - limit position bias) ≤ n - limit position bias :=
    Nat.div_le_self _ _
  omega

/-- What has been written: the digits, the difference since the last number, the bias, how many
characters are placed, and whether a number has been written. -/
structure Writing where
  digits : List Char := []
  delta : Nat := 0
  bias : Nat := 72
  placed : Nat
  isFirst : Bool := true

/-- The writing after a character of the text, when the characters of a code point are placed. -/
def Writing.pass (point : Nat) (w : Writing) (c : Char) : Writing :=
  if c.toNat < point then { w with delta := w.delta + 1 }
  else if c.toNat == point then
    { digits := w.digits ++ writeNumber w.bias 0 w.delta
      delta := 0
      bias := adapt w.delta w.isFirst (w.placed + 1)
      placed := w.placed + 1
      isFirst := false }
  else w

/-- The writing after all characters of code points in their order; `last` is the one before. -/
def Writing.place (text : List Char) (w : Writing) (last : Nat) : List Nat → Writing
  | [] => w
  | point :: rest =>
    let start := { w with delta := w.delta + (point - last) * (w.placed + 1) }
    let w := text.foldl (Writing.pass point) start
    Writing.place text { w with delta := w.delta + 1 } (point + 1) rest

/-- The code points of a text beyond ASCII, each once and in order. -/
def extended (s : List Char) : List Nat :=
  ((s.map Char.toNat).filter fun n => decide (128 ≤ n)).mergeSort.eraseDups

/-- The ASCII characters that write a text. -/
def written (s : List Char) : List Char :=
  let base := s.filter fun c => decide (c.toNat < 128)
  let digits := (Writing.place s { placed := base.length } 0x80 (extended s)).digits
  (if base.isEmpty then [] else base ++ ['-']) ++ digits

/-- The bytes of characters. -/
def encode (s : List Char) : List UInt8 := (written s).map fun c => UInt8.ofNat c.toNat

end Transclude.Punycode
