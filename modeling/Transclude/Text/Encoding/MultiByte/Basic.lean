import Transclude.Text.Encoding.Failure

/-!
# Encodings of several bytes for a character

Encodings that read and write step by step. A step sees what is left and may keep a state for the
steps after it.

## Main definitions

* `MultiByte`            : such an encoding, as its two steps.
* `MultiByte.decode`     : the characters of bytes.
* `MultiByte.encode`     : the bytes of characters that are at hand as a whole.
* `MultiByte.encodeFile` : the bytes of the characters of a file.
-/

namespace Transclude

/-- What the next byte is, with the bytes after it. -/
inductive Taken (σ : Type)
  /-- Characters, in this byte and `more` others. -/
  | chars (s : List Char) (more : Nat) (state : σ)
  /-- This byte and `more` others are nothing. -/
  | illegal (more : Nat)
  /-- The bytes end too early. -/
  | incomplete

/-- How the next character is written, with the characters after it. -/
inductive Given (σ : Type)
  /-- Bytes, for this character and `more` others. -/
  | bytes (b : List UInt8) (more : Nat) (state : σ)
  /-- The encoding does not have the character. -/
  | illegal
  /-- The bytes depend on the next character, and there is none. -/
  | undecided

/-- An encoding by its name and its steps, with the bytes that lead back to the state of the start
after a whole text. -/
structure MultiByte where
  name : String
  State : Type
  start : State
  take : State → UInt8 → List UInt8 → Taken State
  give : State → Char → List Char → Given State
  finish : State → List UInt8

namespace MultiByte

/-- An encoding whose steps keep no state. -/
def stateless (name : String) (take : UInt8 → List UInt8 → Taken Unit)
    (give : Char → List Char → Given Unit) : MultiByte :=
  ⟨name, Unit, (), fun _ => take, fun _ => give, fun _ => []⟩

/-- The characters of bytes that start at a position, read in a state. -/
def decodeFrom (e : MultiByte) (position : Nat) (state : e.State) :
    List UInt8 → Except DecodeError (List Char)
  | [] => .ok []
  | b :: rest =>
    match e.take state b rest with
    | .chars s more next =>
      (decodeFrom e (position + more + 1) next (rest.drop more)).map (s ++ ·)
    | .illegal more =>
      .error ⟨e.name, b :: rest.take more, position, "illegal multibyte sequence"⟩
    | .incomplete => .error ⟨e.name, b :: rest, position, "incomplete multibyte sequence"⟩
termination_by bytes => bytes.length
decreasing_by simp only [List.length_cons, List.length_drop]; omega

/-- The characters of bytes. -/
def decode (e : MultiByte) (bytes : List UInt8) : Except DecodeError (List Char) :=
  e.decodeFrom 0 e.start bytes

/-- The bytes of characters that start at a position, written in a state. At the end of a whole text
the last character starts no pair, and what leads back to the state of the start is added. Otherwise
more may follow: a last character that is undecided waits for it, and the state stays as it is. -/
def encodeFrom (e : MultiByte) (whole : Bool) (position : Nat) (state : e.State) :
    List Char → Except EncodeError (List UInt8)
  | [] => .ok (if whole then e.finish state else [])
  | c :: rest =>
    match e.give state c (if whole && rest.isEmpty then ['\n'] else rest) with
    | .bytes b more next =>
      (encodeFrom e whole (position + more + 1) next (rest.drop more)).map (b ++ ·)
    | .illegal => .error ⟨e.name, [c], position, "illegal multibyte sequence"⟩
    | .undecided => .ok []
termination_by s => s.length
decreasing_by simp only [List.length_cons, List.length_drop]; omega

/-- The bytes of characters that are at hand as a whole. -/
def encode (e : MultiByte) (s : List Char) : Except EncodeError (List UInt8) :=
  e.encodeFrom true 0 e.start s

/-- The bytes of the characters of a file. What waits for more to follow is not written. -/
def encodeFile (e : MultiByte) (s : List Char) : Except EncodeError (List UInt8) :=
  e.encodeFrom false 0 e.start s

end MultiByte

namespace Taken

/-- An ASCII character. -/
def ascii {σ : Type} (state : σ) (a : UInt8) : Taken σ := .chars [Char.ofNat a.toNat] 0 state

/-- One character in two bytes, or none. -/
def pair {σ : Type} (state : σ) : Option Char → Taken σ
  | some c => .chars [c] 1 state
  | none => .illegal 0

end Taken

namespace Given

/-- The bytes of one character, or none. -/
def one {σ : Type} (state : σ) : Option (List UInt8) → Given σ
  | some b => .bytes b 0 state
  | none => .illegal

end Given

namespace MultiByte

/-- Whether a character is of ASCII. -/
def isAscii (c : Char) : Bool := decide (c.toNat < 128)

/-- The byte of a number. -/
def byte (n : Nat) : UInt8 := UInt8.ofNat n

/-- The place of two bytes in rows of 94 places. `first` is the first byte of the first row and the
first byte of a place. -/
def place94? (first : Nat) (a b : UInt8) : Option Nat :=
  let row := a.toNat - first
  let cell := b.toNat - first
  if first ≤ a.toNat ∧ first ≤ b.toNat ∧ row < 94 ∧ cell < 94 then some (row * 94 + cell) else none

/-- The two bytes of a place in rows of 94 places. -/
def bytes94 (first place : Nat) : List UInt8 :=
  [byte (first + place / 94), byte (first + place % 94)]

/-- The number of a second byte among those from 0x40 on that leave out 0x7F. -/
def trail? (b : UInt8) : Option Nat :=
  if 0x40 ≤ b.toNat ∧ b.toNat < 0x7F then some (b.toNat - 0x40)
  else if 0x80 ≤ b.toNat then some (b.toNat - 0x41)
  else none

/-- The second byte of a number. -/
def trail (n : Nat) : UInt8 := byte (if n < 63 then 0x40 + n else 0x41 + n)

end MultiByte

end Transclude
