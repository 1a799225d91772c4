import Transclude.Document.Line

/-!
# Line buffers

A buffer holds the lines of a document in reading order. Its only change is to replace a range of
lines by others. An index below zero counts from the end.

## Main definitions

* `Buffer.replace` : the buffer with a range of lines replaced.
* `Buffer.get`     : the line at an index.
* `Buffer.slice`   : the lines between two indices.
* `Buffer.text`    : the text of the document.

## Main statements

* `Buffer.get_append`     : the line after the first `pre` lines.
* `Buffer.replace_append` : lines in the middle replaced.
-/

namespace Transclude

/-- The lines of a document in reading order. -/
structure Buffer where
  lines : List Line := []
  deriving DecidableEq, Repr

/-- Why a buffer refuses an index or a range. -/
inductive BufferError
  | outOfRange
  | invalidRange (start stop : Int) (size : Nat)
  deriving DecidableEq, Repr

/-- The refusal in words. -/
def BufferError.message : BufferError → String
  | .outOfRange => "list index out of range"
  | .invalidRange start stop size =>
    s!"invalid splice range [{start}, {stop}) for buffer of {size} lines"

namespace Buffer

/-- The buffer of a text. -/
def ofText (text file : String) : Buffer := ⟨Line.ofText text file⟩

/-- The number of lines. -/
def size (b : Buffer) : Nat := b.lines.length

/-- The position that an index stands for in `size` lines; an index below zero counts from the
end. -/
def position? (size : Nat) (index : Int) : Option Nat :=
  if 0 ≤ index then (if index < size then some index.toNat else none)
  else if 0 ≤ index + size then some (index + size).toNat
  else none

/-- The line at an index. -/
def get (b : Buffer) (index : Int) : Except BufferError Line :=
  match (position? b.size index).bind (b.lines[·]?) with
  | some line => .ok line
  | none => .error .outOfRange

/-- The position at which a slice starts or stops; indices outside the lines are moved to the
nearest end. -/
def bound (size : Nat) (index : Int) : Nat :=
  if index < 0 then (index + size).toNat else min index.toNat size

/-- The lines between two indices. -/
def slice (b : Buffer) (start stop : Int) : List Line :=
  let first := bound b.size start
  (b.lines.drop first).take (bound b.size stop - first)

/-- The buffer with the lines from `start` to before `stop` replaced. -/
def replace (b : Buffer) (start stop : Int) (new : List Line) : Except BufferError Buffer :=
  if 0 ≤ start ∧ start ≤ stop ∧ stop ≤ b.size then
    .ok ⟨b.lines.take start.toNat ++ new ++ b.lines.drop stop.toNat⟩
  else .error (.invalidRange start stop b.size)

/-- The text of the document, every line ended by a line feed. -/
def text (b : Buffer) : String := Text.joinLines (b.lines.map (·.text))

/-- An index that is a natural number stands for itself. -/
theorem position?_natCast {size n : Nat} (h : n < size) : position? size n = some n := by
  unfold position?
  rw [if_pos (by omega), if_pos (by omega), Int.toNat_natCast]

theorem get_append {b : Buffer} {pre rest : List Line} {line : Line}
    (h : b.lines = pre ++ line :: rest) : b.get pre.length = .ok line := by
  have hsize : pre.length < b.size := by simp [size, h]
  unfold get
  rw [position?_natCast hsize, Option.bind_some, h, List.getElem?_append_right (Nat.le_refl _),
    Nat.sub_self, List.getElem?_cons_zero]

theorem replace_append {b : Buffer} {pre mid post : List Line} (new : List Line)
    (h : b.lines = pre ++ mid ++ post) :
    b.replace pre.length (pre.length + mid.length : Nat) new = .ok ⟨pre ++ new ++ post⟩ := by
  have hsize : b.size = pre.length + mid.length + post.length := by simp [size, h]; omega
  have htake : (pre ++ mid ++ post).take pre.length = pre := by
    rw [List.append_assoc, List.take_left]
  have hdrop : (pre ++ mid ++ post).drop (pre.length + mid.length) = post := by
    rw [← List.length_append, List.drop_left]
  unfold replace
  rw [if_pos ⟨by omega, by omega, by omega⟩, Int.toNat_natCast, Int.toNat_natCast, h, htake, hdrop]

end Buffer

end Transclude
