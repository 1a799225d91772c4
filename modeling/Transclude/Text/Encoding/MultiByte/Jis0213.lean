import Transclude.Text.Encoding.CodedSet.Jis0208
import Transclude.Text.Encoding.CodedSet.Jis0213
import Transclude.Text.Encoding.MultiByte.Basic

/-!
# The planes of JIS X 0213

JIS X 0213 has two planes of 94 rows. The first holds JIS X 0208 and gives places to some pairs of
characters too. Its second edition added ten characters and exchanged one.

## Main definitions

* `Edition.firstPlane?`  : the characters at a place of the first plane.
* `Edition.secondPlane?` : the character at a place of the second plane.
* `Edition.placement`    : where a character is.
-/

namespace Transclude.MultiByte

/-- An edition of JIS X 0213. -/
inductive Edition
  | first
  | second
  deriving DecidableEq, Repr

/-- Where a character is in the two planes. -/
inductive Placement
  /-- At a place of the first plane, with `more` characters after it. -/
  | first (place more : Nat)
  | second (place : Nat)
  /-- The place depends on the next character, and there is none. -/
  | undecided
  /-- Only the other edition has the character. -/
  | excluded
  | nowhere
  deriving DecidableEq, Repr

namespace Edition

/-- The place of the character that the editions have differently. -/
def exchangedPlace : Nat := 92 * 94 + 26

/-- The character that the second edition has there. -/
def exchanged : Char := '鬜'

/-- The character that the first edition has there. -/
def exchangedBefore : Char := '鬝'

/-- Whether an edition lacks a place of the first plane that the other has. -/
def lacks (e : Edition) (place : Nat) : Bool :=
  e == .first && CodedSet.jis0213Later.contains place

/-- The characters at a place of the first plane. -/
def firstPlane? (e : Edition) (place : Nat) : Option (List Char) :=
  if e.lacks place then none
  else match (CodedSet.jis0208.char? place).or (CodedSet.jis0213First.char? place) with
    | some c => some [c]
    | none => (CodedSet.jis0213Pairs.find? (·.1 == place)).map fun entry => [entry.2.1, entry.2.2]

/-- The character at a place of the second plane. -/
def secondPlane? (e : Edition) (place : Nat) : Option Char :=
  if e == .first && place == exchangedPlace then some exchangedBefore
  else CodedSet.jis0213Second.char? place

/-- Where a single character is. -/
def single (e : Edition) (c : Char) : Placement :=
  if c == exchangedBefore && e == .first then .second exchangedPlace
  else if c == exchanged && e == .first then .excluded
  else match (CodedSet.jis0208.place? c).or (CodedSet.jis0213First.place? c) with
    | some place => if e.lacks place then .excluded else .first place 0
    | none =>
      match CodedSet.jis0213Second.place? c with
      | some place => .second place
      | none => .nowhere

/-- Whether a character starts one of the pairs that have a place. -/
def startsPair (c : Char) : Bool := CodedSet.jis0213Pairs.any (·.2.1 == c)

/-- Where a character that starts a pair is, with the character after it. The character zero is
taken as the end of the pair. -/
def paired? (e : Edition) (c d : Char) : Option Nat :=
  if d == '\x00' then
    match e.single c with
    | .first place _ => some place
    | _ => none
  else (CodedSet.jis0213Pairs.find? (·.2 == (c, d))).map (·.1)

/-- Where a character is, with the characters after it. -/
def placement (e : Edition) (c : Char) (rest : List Char) : Placement :=
  if startsPair c then
    match rest with
    | [] => .undecided
    | d :: _ =>
      match e.paired? c d with
      | some place => .first place 1
      | none => e.single c
  else e.single c

end Edition

end Transclude.MultiByte
