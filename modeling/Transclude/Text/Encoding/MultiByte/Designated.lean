import Transclude.Text.Encoding.CodedSet.Gb2312
import Transclude.Text.Encoding.CodedSet.Jis0212
import Transclude.Text.Encoding.CodedSet.Ksx1001
import Transclude.Text.Encoding.MultiByte.Jis0213

/-!
# Designated character sets

The encodings of ISO 2022 with seven bits. An escape sequence designates the set that the bytes
after it belong to. A second set may be reached by shifts, and a third one by a single shift for one
character.

## Main definitions

* `Designated`         : the encodings.
* `Designated.coding`  : their steps.
-/

namespace Transclude.MultiByte

/-- A character set that can be designated. -/
inductive Designation
  | ascii
  | roman
  | kana
  | latin
  | greek
  | jis0208
  /-- The set of 1978, which is read as the later one. -/
  | jis0208Old
  | jis0212
  | jis0213First (e : Edition)
  | jis0213Second (e : Edition)
  | ksx1001
  | gb2312
  deriving DecidableEq, Repr

namespace Designation

/-- The last byte of the escape sequences for the set. -/
def final : Designation → UInt8
  | .ascii => 0x42
  | .roman => 0x4A
  | .kana => 0x49
  | .latin => 0x41
  | .greek => 0x46
  | .jis0208 => 0x42
  | .jis0208Old => 0x40
  | .jis0212 => 0x44
  | .jis0213First .first => 0x4F
  | .jis0213First .second => 0x51
  | .jis0213Second _ => 0x50
  | .ksx1001 => 0x43
  | .gb2312 => 0x41

/-- Whether the set has two bytes for a character. -/
def isDouble : Designation → Bool
  | .ascii | .roman | .kana | .latin | .greek => false
  | _ => true

/-- The character of one byte. -/
def ofByte? : Designation → UInt8 → Option Char
  | .roman, b =>
    some (if b == 0x5C then '¥' else if b == 0x7E then '‾' else Char.ofNat b.toNat)
  | .kana, b =>
    if 0x21 ≤ b ∧ b ≤ 0x5F then some (Char.ofNat (0xFF40 + b.toNat)) else none
  | _, _ => none

/-- The characters at a place. -/
def ofPlace? : Designation → Nat → Option (List Char)
  | .jis0208, n | .jis0208Old, n => (CodedSet.jis0208.char? n).map ([·])
  | .jis0212, n => (CodedSet.jis0212.char? n).map ([·])
  | .jis0213First e, n => e.firstPlane? n
  | .jis0213Second _, n => (CodedSet.jis0213Second.char? n).map ([·])
  | .ksx1001, n => (CodedSet.ksx1001.char? n).map ([·])
  | .gb2312, n => (CodedSet.gb2312.char? n).map ([·])
  | _, _ => none

/-- The characters of the next bytes in the set, and how many bytes follow the first. -/
def chars? (d : Designation) (a : UInt8) (rest : List UInt8) : Option (List Char) :=
  if d.isDouble then
    match rest with
    | [] => none
    | b :: _ => (place94? 0x21 a b).bind d.ofPlace?
  else (d.ofByte? a).map ([·])

/-- The bytes of a character in the set, with the characters after it, and how many of these they
hold. -/
def bytes? (d : Designation) (c : Char) (rest : List Char) : Option (List UInt8 × Nat) :=
  let at94 (place : Nat) : List UInt8 × Nat := (bytes94 0x21 place, 0)
  match d with
  | .roman => if c == '¥' then some ([0x5C], 0) else if c == '‾' then some ([0x7E], 0) else none
  | .kana => if '｡' ≤ c ∧ c ≤ 'ﾟ' then some ([byte (c.toNat - 0xFF40)], 0) else none
  | .jis0208 => (CodedSet.jis0208.place? c).map at94
  | .jis0212 => (CodedSet.jis0212.place? c).map at94
  | .jis0213First e =>
    match e.placement c rest with
    | .first place more => some (bytes94 0x21 place, more)
    | _ => none
  | .jis0213Second e =>
    match e.single c with
    | .second place => some (at94 place)
    | _ => none
  | .ksx1001 => (CodedSet.ksx1001.place? c).map at94
  | .gb2312 => (CodedSet.gb2312.place? c).map at94
  | .ascii | .latin | .greek | .jis0208Old => none

end Designation

/-- What is designated: three sets, of which the first is in use unless a shift leads to the second.
After an escape that designates nothing, bytes are passed as they are until its end. -/
structure Designations where
  plain : Designation := .ascii
  shifted : Designation := .ascii
  single : Designation := .ascii
  isShifted : Bool := false
  isPassing : Bool := false
  deriving DecidableEq, Repr

/-- The encodings with designated sets. -/
inductive Designated
  | japanese
  | japanese1
  | japanese2
  | japanese0213 (e : Edition)
  | japaneseExtended
  | korean
  deriving DecidableEq, Repr

namespace Designated

/-- The name of the encoding. -/
def name : Designated → String
  | .japanese => "iso2022_jp"
  | .japanese1 => "iso2022_jp_1"
  | .japanese2 => "iso2022_jp_2"
  | .japanese0213 .first => "iso2022_jp_3"
  | .japanese0213 .second => "iso2022_jp_2004"
  | .japaneseExtended => "iso2022_jp_ext"
  | .korean => "iso2022_kr"

/-- The sets of the encoding beside ASCII, in the order in which a character is looked for. -/
def sets : Designated → List Designation
  | .japanese => [.jis0208, .roman, .jis0208Old]
  | .japanese1 => [.jis0208, .jis0212, .roman, .jis0208Old]
  | .japanese2 =>
    [.jis0208, .jis0212, .ksx1001, .gb2312, .roman, .jis0208Old, .latin, .greek]
  | .japanese0213 e => [.jis0208, .jis0213First e, .jis0213Second e]
  | .japaneseExtended => [.jis0208, .jis0212, .roman, .kana, .jis0208Old]
  | .korean => [.ksx1001]

/-- Whether shifts lead to a second set. -/
def hasShifts : Designated → Bool
  | .korean => true
  | _ => false

/-- Whether single shifts lead to a third set. -/
def hasSingleShifts : Designated → Bool
  | .japanese2 => true
  | _ => false

/-- The byte that starts an escape sequence. -/
def escape : UInt8 := 0x1B

/-- Whether a byte ends an escape sequence. -/
def endsEscape (b : UInt8) : Bool := decide (0x40 ≤ b) && decide (b ≤ 0x5A)

/-- The greatest number of bytes in an escape sequence. -/
def maxEscape : Nat := 16

/-- The number of bytes in an escape sequence, from a given one on. The byte `@` after `&` does not
end it where a set may be announced in that way, and neither does the byte after it. -/
def escapeEnd (announces : Bool) (count : Nat) : List UInt8 → Option (Option Nat)
  | [] => if count < maxEscape then none else some none
  | b :: rest =>
    if maxEscape ≤ count then some none
    else if endsEscape b then some (some (count + 1))
    else if announces && b == 0x26 && rest.head? == some 0x40 then
      escapeEnd announces (count + 3) (rest.drop 2)
    else escapeEnd announces (count + 1) rest
termination_by bytes => bytes.length
decreasing_by all_goals simp only [List.length_cons, List.length_drop]; omega

/-- Which of the three sets an escape sequence designates. -/
inductive Slot
  | plain
  | shifted
  | single

/-- What the bytes of an escape sequence after its first designate: the slot, whether the set has
two bytes for a character, and the last byte of the sequence. An announcement of two bytes may stand
before the sequence for JIS X 0208. -/
def slot? (e : Designated) : List UInt8 → Option (Slot × Bool × UInt8)
  | [0x24, f] => some (.plain, true, f)
  | [0x28, f] => some (.plain, false, f)
  | [0x29, f] => some (.shifted, false, f)
  | [0x2E, f] => if e.hasSingleShifts then some (.single, false, f) else none
  | [0x24, 0x28, f] => some (.plain, true, f)
  | [0x24, 0x29, f] => some (.shifted, true, f)
  | [_, _, 0x1B, 0x24, 0x42] => if e.hasShifts then none else some (.plain, true, 0x42)
  | _ => none

/-- The designations after an escape sequence without its first byte. -/
def designate? (e : Designated) (state : Designations) (sequence : List UInt8) :
    Option Designations := do
  let (slot, isDouble, final) ← e.slot? sequence
  let set ← (Designation.ascii :: e.sets).find? fun d => d.isDouble == isDouble && d.final == final
  match slot with
  | .plain => some { state with plain := set }
  | .shifted => some { state with shifted := set }
  | .single => some { state with single := set }

/-- The Greek character of a byte with the high bit. -/
def greek? (b : Nat) : Option Char :=
  if b < 0xA0 then some (Char.ofNat b)
  else if b == 0xA1 then some '‘'
  else if b == 0xA2 then some '’'
  else if b == 0xAF then some '―'
  else if [0xA0, 0xA3, 0xA6, 0xA7, 0xA8, 0xA9, 0xAB, 0xAC, 0xAD, 0xB0, 0xB1, 0xB2, 0xB3, 0xB7, 0xBB,
      0xBD].contains b then some (Char.ofNat b)
  else if 0xB4 ≤ b ∧ b ≤ 0xFE ∧ b ≠ 0xD2 then some (Char.ofNat (0x02D0 + b))
  else none

/-- The character of a byte in the set that a single shift leads to. -/
def singleShifted? (d : Designation) (b : UInt8) : Option Char :=
  let high := (b ^^^ 0x80).toNat
  match d with
  | .latin => if b < 0x80 then some (Char.ofNat high) else none
  | .greek => greek? high
  | .ascii => if b < 0x80 then some (Char.ofNat b.toNat) else none
  | _ => none

/-- What an escape byte starts. -/
def takeEscape (e : Designated) (state : Designations) (rest : List UInt8) : Taken Designations :=
  match rest with
  | [] => .incomplete
  | b :: after =>
    if [0x28, 0x29, 0x24, 0x2E, 0x26].contains b then
      match escapeEnd (!e.hasShifts) 1 rest with
      | none => .incomplete
      | some none => .illegal 0
      | some (some count) =>
        match e.designate? state (rest.take (count - 1)) with
        | some state => .chars [] (count - 1) state
        | none => .illegal (count - 1)
    else if e.hasSingleShifts && b == 0x4E then
      match after with
      | [] => .incomplete
      | c :: _ =>
        match singleShifted? state.single c with
        | some char => .chars [char] 2 state
        | none => .illegal 2
    else .chars ['\x1b'] 0 { state with isPassing := true }

/-- What the next byte is. -/
def take (e : Designated) (state : Designations) (a : UInt8) (rest : List UInt8) :
    Taken Designations :=
  let asIs (state : Designations) : Taken Designations := .chars [Char.ofNat a.toNat] 0 state
  if state.isPassing then asIs { state with isPassing := !endsEscape a }
  else if a == escape then e.takeEscape state rest
  else if e.hasShifts && a == 0x0E then .chars [] 0 { state with isShifted := true }
  else if e.hasShifts && a == 0x0F then .chars [] 0 { state with isShifted := false }
  else if a == 0x0A then asIs { state with isShifted := false }
  else if a < 0x20 then asIs state
  else if 0x80 ≤ a then .illegal 0
  else
    let set := if state.isShifted then state.shifted else state.plain
    if set == .ascii then asIs state
    else if set.isDouble && rest.isEmpty then .incomplete
    else
      let more := if set.isDouble then 1 else 0
      match set.chars? a rest with
      | some s => .chars s more state
      | none => .illegal more

/-- The bytes that lead to a set, and the designations then. -/
def leadTo (e : Designated) (state : Designations) (d : Designation) :
    List UInt8 × Designations :=
  if e.hasShifts && d != .ascii then
    ((if state.shifted == d then [] else [escape, 0x24, 0x29, d.final]) ++
      (if state.isShifted then [] else [0x0E]),
      { state with shifted := d, isShifted := true })
  else
    ((if state.plain == d then []
      else if !d.isDouble then [escape, 0x28, d.final]
      else if d == .jis0208 then [escape, 0x24, d.final]
      else [escape, 0x24, 0x28, d.final]) ++
      (if state.isShifted then [0x0F] else []),
      { state with plain := d, isShifted := false })

/-- Where a character that starts a pair is, if the pair is there, or whether that is not yet to be
known. -/
def pairOf (e : Designated) (c : Char) (rest : List Char) : Option (Option (Designation × Nat)) :=
  match e with
  | .japanese0213 edition =>
    if Edition.startsPair c then
      match rest with
      | [] => some none
      | d :: _ => (edition.paired? c d).map fun place => some (.jis0213First edition, place)
    else none
  | _ => none

/-- How the next character is written. -/
def give (e : Designated) (state : Designations) (c : Char) (rest : List Char) :
    Given Designations :=
  let written (d : Designation) (b : List UInt8) (more : Nat) : Given Designations :=
    let (before, state) := e.leadTo state d
    .bytes (before ++ b) more state
  if isAscii c then written .ascii [byte c.toNat] 0
  else match e.pairOf c rest with
    | some none => .undecided
    | some (some (d, place)) => written d (bytes94 0x21 place) 1
    | none =>
      match e.sets.findSome? fun d => (d.bytes? c rest).map fun (b, more) => (d, b, more) with
      | some (d, b, more) => written d b more
      | none => .illegal

/-- The bytes that lead back to ASCII. -/
def finish (state : Designations) : List UInt8 :=
  (if state.isShifted then [0x0F] else []) ++
    (if state.plain == .ascii then [] else [escape, 0x28, Designation.ascii.final])

/-- The encoding by its steps. -/
def coding (e : Designated) : MultiByte := ⟨e.name, Designations, {}, e.take, e.give, finish⟩

end Designated

end Transclude.MultiByte
