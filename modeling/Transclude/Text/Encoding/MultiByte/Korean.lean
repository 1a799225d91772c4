import Transclude.Text.Encoding.CodedSet.Ksx1001
import Transclude.Text.Encoding.CodedSet.UnifiedHangul
import Transclude.Text.Encoding.MultiByte.Basic
import Transclude.Text.Hangul

/-!
# Korean

KS X 1001 in two bytes with the high bit, where further syllables are spelled letter by letter; the
same with two bytes for all syllables; and Johab, whose two bytes hold three letters of five bits.

## Main definitions

* `MultiByte.eucKorean`, `MultiByte.unifiedHangul`, `MultiByte.johab`
-/

namespace Transclude.MultiByte

open Transclude.Hangul

/-- The character of two bytes in KS X 1001. -/
def koreanChar? (a b : UInt8) : Option Char := (place94? 0xA1 a b).bind CodedSet.ksx1001.char?

/-- The bytes of a character in KS X 1001. -/
def koreanBytes? (c : Char) : Option (List UInt8) :=
  (CodedSet.ksx1001.place? c).map (bytes94 0xA1)

/-- The byte before each letter of a spelled syllable. -/
def letterMark : UInt8 := 0xA4

/-- The byte of a letter that is not there; it also opens a spelled syllable. -/
def noLetter : UInt8 := 0xD4

/-- The letter of a byte. -/
def letterOfByte (b : UInt8) : Char := Char.ofNat (0x3131 + (b.toNat - 0xA1))

/-- The byte of a letter. -/
def byteOfLetter (c : Char) : UInt8 := byte (0xA1 + (c.toNat - 0x3131))

/-- The number of the final of a byte. -/
def finalOfByte? (b : UInt8) : Option Nat :=
  if b == noLetter then some 0
  else if b < 0xA1 then none
  else (finals.idxOf? (letterOfByte b)).map (· + 1)

/-- The syllable that three bytes spell. -/
def spelled? (initial vowel final : UInt8) : Option Char :=
  if initial < 0xA1 ∨ vowel < 0xA1 then none
  else do
    let i ← initials.idxOf? (letterOfByte initial)
    let v ← vowels.idxOf? (letterOfByte vowel)
    let f ← finalOfByte? final
    some (syllable i v f)

/-- The bytes that spell a syllable. -/
def spell? (c : Char) : Option (List UInt8) := do
  let (i, v, f) ← letterNumbers c
  let initial ← initials[i]?
  let vowel ← vowels[v]?
  let final := if f = 0 then some noLetter else finals[f - 1]?.map byteOfLetter
  some [letterMark, noLetter, letterMark, byteOfLetter initial, letterMark, byteOfLetter vowel,
    letterMark, ← final]

/-- KS X 1001, with the other syllables spelled. -/
def eucKorean : MultiByte :=
  stateless "euc_kr"
    (fun a rest =>
      if a < 0x80 then .ascii () a
      else match rest with
        | [] => .incomplete
        | b :: rest =>
          if a == letterMark && b == noLetter then
            match rest with
            | m :: initial :: n :: vowel :: o :: final :: _ =>
              match if m == letterMark && n == letterMark && o == letterMark then
                  spelled? initial vowel final else none with
              | some c => .chars [c] 7 ()
              | none => .illegal 0
            | _ => .incomplete
          else .pair () (koreanChar? a b))
    (fun c _ =>
      .one () (if isAscii c then some [byte c.toNat] else (koreanBytes? c).or (spell? c)))

/-- The number of two bytes among those of the further syllables: the first 32 rows have 178 places
and the others 84. -/
def hangulPlace? (a b : UInt8) : Option Nat :=
  let cell :=
    if 0x41 ≤ b.toNat ∧ b.toNat ≤ 0x5A then some (b.toNat - 0x41)
    else if 0x61 ≤ b.toNat ∧ b.toNat ≤ 0x7A then some (b.toNat - 0x61 + 26)
    else if 0x81 ≤ b.toNat ∧ b.toNat ≤ 0xFE then some (b.toNat - 0x81 + 52)
    else none
  cell.bind fun cell =>
    if a.toNat < 0x81 then none
    else if a.toNat < 0xA1 then some ((a.toNat - 0x81) * 178 + cell)
    else if cell < 84 then some (32 * 178 + (a.toNat - 0xA1) * 84 + cell)
    else none

/-- The two bytes of a number among those of the further syllables. -/
def hangulBytes (place : Nat) : List UInt8 :=
  let ofCell (cell : Nat) : UInt8 :=
    byte (if cell < 26 then 0x41 + cell else if cell < 52 then 0x61 + (cell - 26)
      else 0x81 + (cell - 52))
  if place < 32 * 178 then [byte (0x81 + place / 178), ofCell (place % 178)]
  else
    let later := place - 32 * 178
    [byte (0xA1 + later / 84), ofCell (later % 84)]

/-- KS X 1001 with all syllables. -/
def unifiedHangul : MultiByte :=
  stateless "cp949"
    (fun a rest =>
      if a < 0x80 then .ascii () a
      else match rest with
        | [] => .incomplete
        | b :: _ =>
          .pair () ((koreanChar? a b).or ((hangulPlace? a b).bind CodedSet.unifiedHangul.char?)))
    (fun c _ =>
      .one () (if isAscii c then some [byte c.toNat]
        else (koreanBytes? c).or ((CodedSet.unifiedHangul.place? c).map hangulBytes)))

/-- The five bits of no initial. -/
def noInitialBits : Nat := 1

/-- The five bits of no vowel. -/
def noVowelBits : Nat := 2

/-- The five bits of no final. -/
def noFinalBits : Nat := 1

/-- The five bits of each initial. -/
def initialBits : List Nat := (List.range 19).map (· + 2)

/-- The five bits of each vowel. -/
def vowelBits : List Nat :=
  [3, 4, 5, 6, 7, 10, 11, 12, 13, 14, 15, 18, 19, 20, 21, 22, 23, 26, 27, 28, 29]

/-- The five bits of each final. -/
def finalBits : List Nat :=
  [2, 3, 4, 5, 6, 7, 8, 9, 10, 11, 12, 13, 14, 15, 16, 17, 19, 20, 21, 22, 23, 24, 25, 26, 27, 28,
   29]

/-- The character of three times five bits. A letter may stand alone, and no letter is a space. -/
def johabChar? (i v f : Nat) : Option Char :=
  if i = noInitialBits ∧ v = noVowelBits ∧ f = noFinalBits then some '\u3000'
  else if i = noInitialBits ∧ v = noVowelBits then (finalBits.idxOf? f).bind (finals[·]?)
  else if i = noInitialBits ∧ f = noFinalBits then (vowelBits.idxOf? v).bind (vowels[·]?)
  else if v = noVowelBits ∧ f = noFinalBits then (initialBits.idxOf? i).bind (initials[·]?)
  else do
    let initial ← initialBits.idxOf? i
    let vowel ← vowelBits.idxOf? v
    let final ← if f = noFinalBits then some 0 else (finalBits.idxOf? f).map (· + 1)
    some (syllable initial vowel final)

/-- The three times five bits of a syllable or letter. -/
def johabBits? (c : Char) : Option (Nat × Nat × Nat) :=
  match letterNumbers c with
  | some (i, v, f) => do
    let initial ← initialBits[i]?
    let vowel ← vowelBits[v]?
    let final ← if f = 0 then some noFinalBits else finalBits[f - 1]?
    some (initial, vowel, final)
  | none =>
    match initials.idxOf? c, vowels.idxOf? c, finals.idxOf? c with
    | some i, _, _ => initialBits[i]?.map fun bits => (bits, noVowelBits, noFinalBits)
    | none, some v, _ => vowelBits[v]?.map fun bits => (noInitialBits, bits, noFinalBits)
    | none, none, some f => finalBits[f]?.map fun bits => (noInitialBits, noVowelBits, bits)
    | none, none, none => none

/-- The place of two bytes that stand for a character of KS X 1001 other than its letters and
syllables. -/
def johabPlace? (a b : UInt8) : Option Nat :=
  let cell := if b < 0x91 then b.toNat - 0x31 else b.toNat - 0x43
  if a < 0xD9 ∨ a = 0xDF ∨ 0xF9 < a ∨ b < 0x31 ∨ b = 0x7F ∨ (0x80 ≤ b ∧ b < 0x91) ∨ b = 0xFF then none
  else if a = 0xDA ∧ 0xA1 ≤ b ∧ b ≤ 0xD3 then none
  else if a < 0xE0 then some ((a.toNat - 0xD9) * 188 + cell)
  else some ((2 * a.toNat - 0x197) * 94 + cell)

/-- The two bytes of a place of KS X 1001 other than its syllables. -/
def johabBytes? (place : Nat) : Option (List UInt8) :=
  let row := place / 94
  let shifted := if row < 41 then row + 0x1B2 else row + 0x197
  let cell := shifted % 2 * 94 + place % 94
  if row < 12 ∨ (41 ≤ row ∧ row < 93) then
    some [byte (shifted / 2), byte (if cell < 0x4E then 0x31 + cell else 0x43 + cell)]
  else none

/-- Johab. -/
def johab : MultiByte :=
  stateless "johab"
    (fun a rest =>
      if a < 0x80 then .ascii () a
      else match rest with
        | [] => .incomplete
        | b :: _ =>
          .pair () (if a < 0xD8 then
            johabChar? (a.toNat / 4 % 32) (a.toNat % 4 * 8 + b.toNat / 32) (b.toNat % 32)
          else (johabPlace? a b).bind CodedSet.ksx1001.char?))
    (fun c _ =>
      .one () (if isAscii c then some [byte c.toNat]
        else match johabBits? c with
          | some (i, v, f) => some [byte (0x80 + i * 4 + v / 8), byte (v % 8 * 32 + f)]
          | none => (CodedSet.ksx1001.place? c).bind johabBytes?))

end Transclude.MultiByte
