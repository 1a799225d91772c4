import Transclude.Text.LowerCase
import Transclude.Text.Split
import Transclude.Text.Word

/-!
# Attribute references

A reference is a name between braces: a word character, then word characters and hyphens. A
backslash before it makes it plain text. A text is cut into its references and the characters
between them in one pass from left to right, so what a reference stands for is not read again.

## Main definitions

* `Piece.ofText` : the references of a text and the characters between them, in order.
-/

namespace Transclude

open Transclude.Text

/-- A piece of a text with references: a character, a reference that a backslash makes plain, or a
reference. -/
inductive Piece
  | char (c : Char)
  | escaped (name : List Char)
  | reference (name : List Char)
  deriving DecidableEq, Repr

namespace Piece

/-- Whether `c` may stand in a reference after the first character of the name. -/
def isNameChar (c : Char) : Bool := isWord c || c == '-'

/-- A name and a closing brace at the start of a text. -/
def nameBeforeBrace? : List Char → Option (List Char)
  | [] => none
  | c :: rest =>
    if isWord c then
      let more := rest.takeWhile isNameChar
      match rest.dropWhile isNameChar with
      | '}' :: _ => some (c :: more)
      | _ => none
    else none

/-- The reference that a text starts with, escaped or not. -/
def atStart? : List Char → Option Piece
  | '\\' :: '{' :: rest => (nameBeforeBrace? rest).map .escaped
  | '{' :: rest => (nameBeforeBrace? rest).map .reference
  | _ => none

/-- The number of characters that a piece takes up. -/
def width : Piece → Nat
  | .char _ => 1
  | .escaped name => name.length + 3
  | .reference name => name.length + 2

/-- The pieces of a text whose first `skip` characters are passed over. -/
def piecesFrom : Nat → List Char → List Piece
  | _, [] => []
  | skip + 1, _ :: rest => piecesFrom skip rest
  | 0, c :: rest =>
    match atStart? (c :: rest) with
    | some piece => piece :: piecesFrom (piece.width - 1) rest
    | none => .char c :: piecesFrom 0 rest

/-- The references of a text and the characters between them. -/
def ofText (s : List Char) : List Piece := piecesFrom 0 s

/-- A text without an opening brace has no references. -/
theorem ofText_of_plain {s : List Char} (h : '{' ∉ s) : ofText s = s.map .char := by
  unfold ofText
  induction s with
  | nil => rfl
  | cons c rest ih =>
    rw [List.mem_cons, not_or] at h
    obtain ⟨hc, hrest⟩ := h
    have hstart : atStart? (c :: rest) = none := by
      unfold atStart?
      split
      · rename_i htext
        cases htext
        exact absurd List.mem_cons_self hrest
      · rename_i htext
        cases htext
        exact absurd rfl hc
      · rfl
    rw [piecesFrom, hstart, ih hrest]
    rfl

/-- A name between braces. -/
def braced (name : List Char) : List Char := '{' :: name ++ ['}']

end Piece

end Transclude
