import Transclude.Text.Encoding.CodedSet.Big5
import Transclude.Text.Encoding.CodedSet.HongKong
import Transclude.Text.Encoding.MultiByte.Basic

/-!
# Traditional Chinese

Big5, and what is used in its place on Windows and in Hong Kong.

## Main definitions

* `MultiByte.big5`, `MultiByte.windowsBig5`, `MultiByte.hongKong`
-/

namespace Transclude.MultiByte

/-- The place of two bytes in rows of 157 places. -/
def place157? (a b : UInt8) : Option Nat :=
  let row := (a.toNat - 0x81) * 157
  if a.toNat < 0x81 ∨ a.toNat = 0xFF ∨ b.toNat = 0xFF then none
  else if 0x40 ≤ b.toNat ∧ b.toNat < 0x7F then some (row + (b.toNat - 0x40))
  else if 0xA1 ≤ b.toNat then some (row + (b.toNat - 0x62))
  else none

/-- The two bytes of a place in rows of 157 places. -/
def bytes157 (place : Nat) : List UInt8 :=
  let cell := place % 157
  [byte (0x81 + place / 157), byte (if cell < 63 then 0x40 + cell else 0x62 + cell)]

/-- The character of the first of several sets that has one at the place. -/
def charOf? (sets : List CodedSet) (place : Nat) : Option Char :=
  sets.findSome? (·.char? place)

/-- The place of a character in the first of several sets that has it. -/
def placeIn? (sets : List CodedSet) (c : Char) : Option Nat := sets.findSome? (·.place? c)

/-- An encoding of ASCII and sets in rows of 157 places, which are tried in turn. -/
def rows157 (name : String) (sets : List CodedSet) : MultiByte :=
  stateless name
    (fun a rest =>
      if a < 0x80 then .ascii () a
      else match rest with
        | [] => .incomplete
        | b :: _ => .pair () ((place157? a b).bind (charOf? sets)))
    (fun c _ =>
      .one () (if isAscii c then some [byte c.toNat] else (placeIn? sets c).map bytes157))

/-- Big5. -/
def big5 : MultiByte := rows157 "big5" [CodedSet.big5Preferred, CodedSet.big5]

/-- Big5 as Windows has it. -/
def windowsBig5 : MultiByte :=
  rows157 "cp950" [CodedSet.windowsBig5Signs, CodedSet.big5, CodedSet.windowsBig5]

/-- Whether the characters of Hong Kong stand in the place of those of Big5. -/
def isHongKong (a b : UInt8) : Bool :=
  (a == 0xC6 && decide (0xA1 ≤ b)) || a == 0xC7 || a == 0xC8

/-- The characters of a place in the set of Hong Kong. -/
def hongKongChars? (place : Nat) : Option (List Char) :=
  match CodedSet.hongKong.char? place with
  | some c => some [c]
  | none => (CodedSet.hongKongPairs.find? (·.1 == place)).map fun entry => [entry.2.1, entry.2.2]

/-- Big5 as Hong Kong has it. -/
def hongKong : MultiByte :=
  stateless "big5hkscs"
    (fun a rest =>
      if a < 0x80 then .ascii () a
      else match rest with
        | [] => .incomplete
        | b :: _ =>
          let plain := if isHongKong a b then none else (place157? a b).bind CodedSet.big5.char?
          match plain.map ([·]) |>.or ((place157? a b).bind hongKongChars?) with
          | some s => .chars s 1 ()
          | none => .illegal 0)
    (fun c rest =>
      if isAscii c then .bytes [byte c.toNat] 0 ()
      else if CodedSet.hongKongPairs.any (·.2.1 == c) then
        match rest with
        | [] => .undecided
        | d :: _ =>
          match CodedSet.hongKongPairs.find? (·.2 == (c, d)) with
          | some entry => .bytes (bytes157 entry.1) 1 ()
          | none => .one () ((CodedSet.hongKong.place? c).map bytes157)
      else
        let sets := [CodedSet.hongKong, CodedSet.big5Preferred, CodedSet.big5]
        .one () ((placeIn? sets c).map bytes157))

end Transclude.MultiByte
