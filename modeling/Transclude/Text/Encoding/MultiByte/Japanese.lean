import Transclude.Text.Encoding.CodedSet.Jis0212
import Transclude.Text.Encoding.CodedSet.WindowsJapanese
import Transclude.Text.Encoding.MultiByte.Jis0213

/-!
# Japanese

The characters of the Japanese sets in two or three bytes: Shift JIS, which leaves single bytes to
half-width kana, and EUC, which sets the high bit of all bytes.

## Main definitions

* `MultiByte.shiftJis`, `MultiByte.windowsJapanese`, `MultiByte.shiftJis0213`
* `MultiByte.eucJapanese`, `MultiByte.euc0213`
-/

namespace Transclude.MultiByte

/-- The half-width kana of a byte. -/
def kanaOfByte? (b : UInt8) : Option Char :=
  if 0xA1 ≤ b ∧ b ≤ 0xDF then some (Char.ofNat (0xFEC0 + b.toNat)) else none

/-- The byte of a half-width kana. -/
def byteOfKana? (c : Char) : Option UInt8 :=
  if '｡' ≤ c ∧ c ≤ 'ﾟ' then some (byte (c.toNat - 0xFEC0)) else none

/-- Whether a byte is the first of two in Shift JIS, up to a last one. -/
def isShiftedLead (last : UInt8) (a : UInt8) : Bool :=
  (decide (0x81 ≤ a) && decide (a ≤ 0x9F)) || (decide (0xE0 ≤ a) && decide (a ≤ last))

/-- The place of two bytes of Shift JIS, with 188 places for each first byte. -/
def shiftedPlace? (a b : UInt8) : Option Nat :=
  let lead := if a < 0xA0 then a.toNat - 0x81 else a.toNat - 0xC1
  if 0xFC < b then none else (trail? b).map (lead * 188 + ·)

/-- The two bytes of a place of Shift JIS. -/
def shiftedBytes (place : Nat) : List UInt8 :=
  let lead := place / 188
  [byte (if lead < 31 then 0x81 + lead else 0xC1 + lead), trail (place % 188)]

/-- The bytes of the yen sign and of the overline, which share those of ASCII characters. -/
def romanByte? (c : Char) : Option UInt8 :=
  if c == '¥' then some 0x5C else if c == '‾' then some 0x7E else none

/-- Shift JIS. -/
def shiftJis : MultiByte :=
  stateless "shift_jis"
    (fun a rest =>
      if a < 0x80 then .ascii () a
      else match kanaOfByte? a with
        | some c => .chars [c] 0 ()
        | none =>
          if isShiftedLead 0xEA a then
            match rest with
            | [] => .incomplete
            | b :: _ => .pair () ((shiftedPlace? a b).bind CodedSet.jis0208.char?)
          else .illegal 0)
    (fun c _ =>
      .one () (if isAscii c then some [byte c.toNat]
        else match (romanByte? c).or (byteOfKana? c) with
          | some b => some [b]
          | none => (CodedSet.jis0208.place? c).map shiftedBytes))

/-- The single bytes of Windows that are neither ASCII nor kana, with their code points. -/
def windowsSingles : List (UInt8 × Nat) :=
  [(0x80, 0x80), (0xA0, 0xF8F0), (0xFD, 0xF8F1), (0xFE, 0xF8F2), (0xFF, 0xF8F3)]

/-- The place where the private characters of Windows start. -/
def privatePlace : Nat := 188 * 47

/-- The number of private characters of Windows. -/
def privateCount : Nat := 188 * 10

/-- The code point of the first private character. -/
def privateStart : Nat := 0xE000

/-- The character of a place in Shift JIS as Windows has it. -/
def windowsChar? (place : Nat) : Option Char :=
  if privatePlace ≤ place ∧ place < privatePlace + privateCount then
    some (Char.ofNat (privateStart + (place - privatePlace)))
  else
    [CodedSet.windowsJapaneseSigns, CodedSet.jis0208, CodedSet.windowsJapanese].findSome?
      (·.char? place)

/-- The place of a character in Shift JIS as Windows has it. -/
def windowsPlace? (c : Char) : Option Nat :=
  let isPrivate := decide (privateStart ≤ c.toNat) && decide (c.toNat < privateStart + privateCount)
  if isPrivate then some (privatePlace + (c.toNat - privateStart))
  else
    [CodedSet.windowsJapaneseSigns, CodedSet.jis0208, CodedSet.windowsJapanese].findSome?
      (·.place? c)

/-- Shift JIS as Windows has it. -/
def windowsJapanese : MultiByte :=
  stateless "cp932"
    (fun a rest =>
      if a < 0x80 then .ascii () a
      else match kanaOfByte? a, windowsSingles.find? (·.1 == a) with
        | some c, _ => .chars [c] 0 ()
        | none, some entry => .chars [Char.ofNat entry.2] 0 ()
        | none, none =>
          match rest with
          | [] => .incomplete
          | b :: _ => .pair () ((shiftedPlace? a b).bind windowsChar?))
    (fun c _ =>
      .one () (if isAscii c then some [byte c.toNat]
        else match byteOfKana? c, windowsSingles.find? (·.2 == c.toNat) with
          | some b, _ => some [b]
          | none, some entry => some [entry.1]
          | none, none => (windowsPlace? c).map shiftedBytes))

/-- The rows of the second plane of JIS X 0213 in the order in which Shift JIS has them. -/
def secondRows : List Nat := [0, 7, 2, 3, 4, 11, 12, 13, 14] ++ (List.range 17).map (· + 77)

/-- The number of places of the first plane. -/
def planeSize : Nat := 94 * 94

/-- The characters at a place of Shift JIS with JIS X 0213, where the rows of the second plane
follow those of the first. The reverse solidus is at the place of its wide form. -/
def shifted0213? (e : Edition) (place : Nat) : Option (List Char) :=
  if place < planeSize then
    match e.firstPlane? place with
    | some ['＼'] => some ['\\']
    | found => found
  else (secondRows[place / 94 - 94]?).bind fun row =>
    (e.secondPlane? (row * 94 + place % 94)).map ([·])

/-- The bytes of a place of the second plane. -/
def secondShiftedBytes? (place : Nat) : Option (List UInt8) :=
  (secondRows.idxOf? (place / 94)).map fun row =>
    shiftedBytes (planeSize + row * 94 + place % 94)

/-- Shift JIS with JIS X 0213. The yen sign and the overline stand in the place of two ASCII
characters. -/
def shiftJis0213 (e : Edition) : MultiByte :=
  stateless (match e with | .first => "shift_jisx0213" | .second => "shift_jis_2004")
    (fun a rest =>
      if a == 0x5C then .chars ['¥'] 0 ()
      else if a == 0x7E then .chars ['‾'] 0 ()
      else if a < 0x80 then .ascii () a
      else match kanaOfByte? a with
        | some c => .chars [c] 0 ()
        | none =>
          if isShiftedLead 0xFC a then
            match rest with
            | [] => .incomplete
            | b :: _ =>
              match shiftedPlace? a b with
              | none => .illegal 0
              | some place =>
                match shifted0213? e place with
                | some s => .chars s 1 ()
                | none => .illegal (if e.lacks place then 1 else 0)
          else .illegal 0)
    (fun c rest =>
      if isAscii c && c != '\\' && c != '~' then .bytes [byte c.toNat] 0 ()
      else if c == '＼' then .illegal
      else match (romanByte? c).or (byteOfKana? c) with
        | some b => .bytes [b] 0 ()
        | none =>
          match e.placement (if c == '\\' then '＼' else c) rest with
          | .first place more => .bytes (shiftedBytes place) more ()
          | .second place => .one () (secondShiftedBytes? place)
          | .undecided => .undecided
          | .excluded | .nowhere => .illegal)

/-- The bytes of a place with the high bit. -/
def highBytes (place : Nat) : List UInt8 := bytes94 0xA1 place

/-- The byte before half-width kana. -/
def kanaMark : UInt8 := 0x8E

/-- The byte before the two bytes of a further set. -/
def furtherMark : UInt8 := 0x8F

/-- The kana after its mark, or what else two or three bytes with the high bit stand for. -/
def takeHigh (two : UInt8 → UInt8 → Taken Unit) (three : Nat → Option Char) (a : UInt8)
    (rest : List UInt8) : Taken Unit :=
  if a < 0x80 then .ascii () a
  else match rest with
    | [] => .incomplete
    | b :: rest =>
      if a == kanaMark then .pair () (kanaOfByte? b)
      else if a == furtherMark then
        match rest with
        | [] => .incomplete
        | c :: _ =>
          match (place94? 0xA1 b c).bind three with
          | some char => .chars [char] 2 ()
          | none => .illegal 0
      else two a b

/-- EUC with JIS X 0208 and JIS X 0212. -/
def eucJapanese : MultiByte :=
  stateless "euc_jp"
    (takeHigh (fun a b => .pair () ((place94? 0xA1 a b).bind CodedSet.jis0208.char?))
      CodedSet.jis0212.char?)
    (fun c _ =>
      .one () (if isAscii c then some [byte c.toNat]
        else match romanByte? c, byteOfKana? c with
          | some b, _ => some [b]
          | none, some b => some [kanaMark, b]
          | none, none =>
            match CodedSet.jis0208.place? c, CodedSet.jis0212.place? c with
            | some place, _ => some (highBytes place)
            | none, some place => some (furtherMark :: highBytes place)
            | none, none => none))

/-- The characters at a place of the first plane in EUC, which has the wide tilde where the plane
has the tilde. -/
def high0213? (e : Edition) (place : Nat) : Option (List Char) :=
  match e.firstPlane? place with
  | some ['~'] => some ['～']
  | found => found

/-- EUC with JIS X 0213, and with JIS X 0212 where the second plane has nothing. -/
def euc0213 (e : Edition) : MultiByte :=
  stateless (match e with | .first => "euc_jisx0213" | .second => "euc_jis_2004")
    (takeHigh
      (fun a b =>
        match place94? 0xA1 a b with
        | none => .illegal 0
        | some place =>
          match high0213? e place with
          | some s => .chars s 1 ()
          | none => .illegal (if e.lacks place then 1 else 0))
      (fun place => (e.secondPlane? place).or (CodedSet.jis0212.char? place)))
    (fun c rest =>
      if isAscii c then .bytes [byte c.toNat] 0 ()
      else match byteOfKana? c with
        | some b => .bytes [kanaMark, b] 0 ()
        | none =>
          match e.placement (if c == '～' then '~' else c) rest with
          | .first place more => .bytes (highBytes place) more ()
          | .second place => .bytes (furtherMark :: highBytes place) 0 ()
          | .undecided => .undecided
          | .excluded => .illegal
          | .nowhere =>
            .one () ((CodedSet.jis0212.place? c).map fun place => furtherMark :: highBytes place))

end Transclude.MultiByte
