/-!
# Coded character sets

A coded character set gives characters to numbered places. An encoding says which bytes stand for
which place.

## Main definitions

* `CodedSet.char?`  : the character at a place.
* `CodedSet.place?` : the place of a character.
-/

namespace Transclude

/-- Characters at consecutive places. The replacement character stands where there is none. -/
structure CharRun where
  start : Nat
  chars : String
  deriving DecidableEq, Repr

/-- Characters with consecutive code points at consecutive places. -/
def CharRun.consecutive (start first count : Nat) : CharRun :=
  ⟨start, String.ofList ((List.range count).map fun i => Char.ofNat (first + i))⟩

/-- A coded character set: runs of characters, in the order of their places. -/
structure CodedSet where
  runs : List CharRun
  deriving DecidableEq, Repr

namespace CodedSet

/-- What stands for a place without a character. -/
def absent : Char := '�'

/-- The character at a place. -/
def char? (s : CodedSet) (place : Nat) : Option Char :=
  match (s.runs.takeWhile fun run => decide (run.start ≤ place)).getLast? with
  | none => none
  | some run => run.chars.toList[place - run.start]?.filter (· != absent)

/-- The first place of a character. -/
def place? (s : CodedSet) (c : Char) : Option Nat :=
  if c == absent then none
  else s.runs.findSome? fun run => (run.chars.toList.idxOf? c).map (run.start + ·)

end CodedSet

end Transclude
