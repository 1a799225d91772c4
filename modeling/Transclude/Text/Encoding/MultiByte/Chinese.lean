import Transclude.Text.Encoding.CodedSet.Gb18030
import Transclude.Text.Encoding.CodedSet.Gb2312
import Transclude.Text.Encoding.CodedSet.Gbk
import Transclude.Text.Encoding.MultiByte.Basic

/-!
# Simplified Chinese

GB 2312 in two bytes with the high bit, GBK and GB 18030 with more characters in two bytes, GB 18030
with all others in four bytes, and HZ, which marks stretches of GB 2312 in ASCII.

## Main definitions

* `MultiByte.gb2312`, `MultiByte.gbk`, `MultiByte.gb18030`, `MultiByte.hz`
-/

namespace Transclude.MultiByte

/-- The place of two bytes in rows of 190 places. -/
def place190? (a b : UInt8) : Option Nat :=
  if a.toNat < 0x81 ∨ a.toNat = 0xFF ∨ b.toNat = 0xFF then none
  else (trail? b).map fun cell => (a.toNat - 0x81) * 190 + cell

/-- The two bytes of a place in rows of 190 places. -/
def bytes190 (place : Nat) : List UInt8 := [byte (0x81 + place / 190), trail (place % 190)]

/-- The character of two bytes in GB 2312. -/
def gb2312Char? (a b : UInt8) : Option Char := (place94? 0xA1 a b).bind CodedSet.gb2312.char?

/-- The bytes of a character in GB 2312. -/
def gb2312Bytes? (c : Char) : Option (List UInt8) :=
  (CodedSet.gb2312.place? c).map (bytes94 0xA1)

/-- GB 2312. -/
def gb2312 : MultiByte :=
  stateless "gb2312"
    (fun a rest =>
      if a < 0x80 then .ascii () a
      else match rest with
        | [] => .incomplete
        | b :: _ => .pair () (gb2312Char? a b))
    (fun c _ => .one () (if isAscii c then some [byte c.toNat] else gb2312Bytes? c))

/-- The character of two bytes in GBK. -/
def gbkChar? (a b : UInt8) : Option Char :=
  ((place190? a b).bind CodedSet.gbkSigns.char?).or
    ((gb2312Char? a b).or ((place190? a b).bind CodedSet.gbk.char?))

/-- The bytes of a character in GBK. The middle dot of Japanese, which GB 2312 has, has none. -/
def gbkBytes? (c : Char) : Option (List UInt8) :=
  ((CodedSet.gbkSigns.place? c).map bytes190).or
    (if c == '・' then none
    else (gb2312Bytes? c).or ((CodedSet.gbk.place? c).map bytes190))

/-- GBK. -/
def gbk : MultiByte :=
  stateless "gbk"
    (fun a rest =>
      if a < 0x80 then .ascii () a
      else match rest with
        | [] => .incomplete
        | b :: _ => .pair () (gbkChar? a b))
    (fun c _ => .one () (if isAscii c then some [byte c.toNat] else gbkBytes? c))

/-- The code point with a number among those of several stretches. -/
def nthOf : List (Nat × Nat) → Nat → Option Nat
  | [], _ => none
  | (first, last) :: rest, n =>
    if n ≤ last - first then some (first + n) else nthOf rest (n - (last - first + 1))

/-- The number of a code point among those of several stretches. -/
def numberIn (n : Nat) : List (Nat × Nat) → Option Nat
  | [] => none
  | (first, last) :: rest =>
    if first ≤ n ∧ n ≤ last then some (n - first)
    else (numberIn n rest).map (· + (last - first + 1))

/-- Where the four-byte forms of characters beyond the basic plane start. -/
def gb18030Supplement : Nat := 15 * 12600

/-- The number of a four-byte form, if the bytes can be one. -/
def fourByteNumber? (a b c d : UInt8) : Option Nat :=
  let isDigit (x : UInt8) : Bool := decide (0x30 ≤ x) && decide (x ≤ 0x39)
  let isLead (x : UInt8) : Bool := decide (0x81 ≤ x) && decide (x ≤ 0xFE)
  if isLead a && isDigit b && isLead c && isDigit d then
    some ((((a.toNat - 0x81) * 10 + (b.toNat - 0x30)) * 126 + (c.toNat - 0x81)) * 10 +
      (d.toNat - 0x30))
  else none

/-- The character of a four-byte form. -/
def fourByteChar? (a b c d : UInt8) : Option Char :=
  (fourByteNumber? a b c d).bind fun n =>
    if gb18030Supplement ≤ n then
      let point := 0x10000 + (n - gb18030Supplement)
      if point < 0x110000 then some (Char.ofNat point) else none
    else (nthOf CodedSet.gb18030Gaps n).map Char.ofNat

/-- The four bytes of a number. -/
def fourBytes (n : Nat) : List UInt8 :=
  [byte (0x81 + n / 12600), byte (0x30 + n / 1260 % 10), byte (0x81 + n / 10 % 126),
    byte (0x30 + n % 10)]

/-- The bytes of a character in GB 18030. -/
def gb18030Bytes? (c : Char) : Option (List UInt8) :=
  if 0x10000 ≤ c.toNat then some (fourBytes (gb18030Supplement + (c.toNat - 0x10000)))
  else ((gbkBytes? c).or ((CodedSet.gb18030.place? c).map bytes190)).or
    ((numberIn c.toNat CodedSet.gb18030Gaps).map fourBytes)

/-- GB 18030. -/
def gb18030 : MultiByte :=
  stateless "gb18030"
    (fun a rest =>
      if a < 0x80 then .ascii () a
      else match rest with
        | [] => .incomplete
        | b :: rest =>
          if 0x30 ≤ b ∧ b ≤ 0x39 then
            match rest with
            | c :: d :: _ =>
              match fourByteChar? a b c d with
              | some char => .chars [char] 3 ()
              | none => .illegal 0
            | _ => .incomplete
          else .pair () ((gbkChar? a b).or ((place190? a b).bind CodedSet.gb18030.char?)))
    (fun c _ => .one () (if isAscii c then some [byte c.toNat] else gb18030Bytes? c))

/-- HZ. The state tells whether the text is inside a stretch of GB 2312. -/
def hz : MultiByte where
  name := "hz"
  State := Bool
  start := false
  take inside a rest :=
    if a == 0x7E then
      match inside, rest with
      | _, [] => .incomplete
      | false, 0x7E :: _ => .chars ['~'] 1 false
      | false, 0x7B :: _ => .chars [] 1 true
      | false, 0x0A :: _ => .chars [] 1 false
      | true, 0x7D :: _ => .chars [] 1 false
      | _, _ => .illegal 0
    else if 0x80 ≤ a then .illegal 0
    else if inside then
      match rest with
      | [] => .incomplete
      | b :: _ => .pair true ((place94? 0x21 a b).bind CodedSet.gb2312.char?)
    else .ascii false a
  give inside c _ :=
    if isAscii c then
      let plain := if c == '~' then [0x7E, 0x7E] else [byte c.toNat]
      .bytes (if inside then 0x7E :: 0x7D :: plain else plain) 0 false
    else match (CodedSet.gb2312.place? c).map (bytes94 0x21) with
      | some b => .bytes (if inside then b else 0x7E :: 0x7B :: b) 0 true
      | none => .illegal
  finish inside := if inside then [0x7E, 0x7D] else []

end Transclude.MultiByte
