import Transclude.Text.Encoding.Failure
import Transclude.Text.Encoding.Surrogate
import Transclude.Text.Shown

/-!
# Text with escapes

Encodings that write characters by their numbers after a backslash. One knows all escapes of quoted
text and has only ASCII beside them. The other knows only the escapes of four and of eight digits
and has one byte for each of the first 256 characters.

## Main definitions

* `CharacterNames` : what the names of characters stand for.
* `Escaped.decode` : the characters of bytes.
* `Escaped.encode` : the bytes of characters.
-/

namespace Transclude

/-- What characters the names of characters stand for. Where the names come from is up to the
surroundings. -/
abbrev CharacterNames := String → Option Char

/-- The names of which none stands for a character. -/
def CharacterNames.unknown : CharacterNames := fun _ => none

/-- The escapes that a text may have. -/
inductive Escaped
  | all
  | numbers
  deriving DecidableEq, Repr

namespace Escaped

/-- What follows a backslash: code points in a number of bytes, or what is wrong with some bytes. -/
inductive Escape
  | points (s : List Nat) (count : Nat)
  | refused (count : Nat) (reason : String)

/-- The value of a hexadecimal digit. -/
def digit? (b : UInt8) : Option Nat :=
  if 0x30 ≤ b ∧ b ≤ 0x39 then some (b.toNat - 0x30)
  else if 0x61 ≤ b ∧ b ≤ 0x66 then some (b.toNat - 0x57)
  else if 0x41 ≤ b ∧ b ≤ 0x46 then some (b.toNat - 0x37)
  else none

/-- Whether a byte is a digit below eight. -/
def isOctal (b : UInt8) : Bool := decide (0x30 ≤ b) && decide (b ≤ 0x37)

/-- The number that digits write in a base. -/
def number (base : Nat) (digits : List Nat) : Nat := digits.foldl (fun n d => n * base + d) 0

/-- The escape of a code point in `count` hexadecimal digits, after the letter that announces it. -/
def hexadecimal (count : Nat) (truncated tooGreat : String) (rest : List UInt8) : Escape :=
  let digits := (rest.take count).map digit? |>.takeWhile (·.isSome) |>.filterMap id
  if digits.length < count then .refused (1 + digits.length) truncated
  else if 0x110000 ≤ number 16 digits then .refused (1 + count) tooGreat
  else .points [number 16 digits] (1 + count)

/-- The escape of a character by its name. -/
def named (names : CharacterNames) (rest : List UInt8) : Escape :=
  let malformed := "malformed \\N character escape"
  match rest with
  | 0x7B :: rest =>
    let name := rest.takeWhile (· != 0x7D)
    if name.length == rest.length then .refused (2 + rest.length) malformed
    else if name.isEmpty then .refused 2 malformed
    else match names (String.ofList (name.map fun b => Char.ofNat b.toNat)) with
      | some c => .points [c.toNat] (3 + name.length)
      | none => .refused (3 + name.length) "unknown Unicode character name"
  | _ => .refused 1 malformed

/-- The characters that a letter after a backslash stands for. -/
def letters : List (UInt8 × Nat) :=
  [(0x5C, 0x5C), (0x27, 0x27), (0x22, 0x22), (0x62, 8), (0x66, 12), (0x74, 9), (0x6E, 10),
   (0x72, 13), (0x76, 11), (0x61, 7)]

/-- What follows a backslash, if it starts an escape. -/
def escape (e : Escaped) (names : CharacterNames) : List UInt8 → Escape
  | [] =>
    match e with
    | .all => .refused 0 "\\ at end of string"
    | .numbers => .points [0x5C] 0
  | a :: rest =>
    let tooGreat :=
      match e with
      | .all => "illegal Unicode character"
      | .numbers => "\\Uxxxxxxxx out of range"
    if a == 0x75 then hexadecimal 4 "truncated \\uXXXX escape" tooGreat rest
    else if a == 0x55 then hexadecimal 8 "truncated \\UXXXXXXXX escape" tooGreat rest
    else if e == .numbers then .points [0x5C, a.toNat] 1
    else if a == 0x0A then .points [] 1
    else if a == 0x78 then hexadecimal 2 "truncated \\xXX escape" tooGreat rest
    else if a == 0x4E then named names rest
    else if isOctal a then
      let digits := a :: (rest.take 2).takeWhile isOctal
      .points [number 8 (digits.map fun d => d.toNat - 0x30)] digits.length
    else match letters.find? (·.1 == a) with
      | some entry => .points [entry.2] 1
      | none => .points [0x5C, a.toNat] 1

/-- The name of the encoding in messages. -/
def name : Escaped → String
  | .all => "unicodeescape"
  | .numbers => "rawunicodeescape"

/-- The code points of bytes that start at a position. -/
def decodeFrom (e : Escaped) (names : CharacterNames) (position : Nat) :
    List UInt8 → Except DecodeError (List Nat)
  | [] => .ok []
  | a :: rest =>
    if a == 0x5C then
      match e.escape names rest with
      | .points s count =>
        (decodeFrom e names (position + 1 + count) (rest.drop count)).map (s ++ ·)
      | .refused count reason => .error ⟨e.name, a :: rest.take count, position, reason⟩
    else (decodeFrom e names (position + 1) rest).map (a.toNat :: ·)
termination_by bytes => bytes.length
decreasing_by all_goals simp only [List.length_cons, List.length_drop]; omega

/-- The characters of bytes. -/
def decode (e : Escaped) (names : CharacterNames) (bytes : List UInt8) :
    Except DecodeError (List Char) :=
  (e.decodeFrom names 0 bytes).map Surrogate.charsOf

/-- The ASCII characters, or the first 256, that write a character. -/
def written (e : Escaped) (c : Char) : List Char :=
  match e with
  | .all =>
    if c == '\\' then ['\\', '\\']
    else if c == '\t' then ['\\', 't']
    else if c == '\n' then ['\\', 'n']
    else if c == '\r' then ['\\', 'r']
    else if ' ' ≤ c && c < '\x7f' then [c]
    else Text.numericEscape c
  | .numbers => if c.toNat < 256 then [c] else Text.numericEscape c

/-- The bytes of characters. -/
def encode (e : Escaped) (s : List Char) : List UInt8 :=
  s.flatMap fun c => (e.written c).map fun d => UInt8.ofNat d.toNat

end Escaped

end Transclude
