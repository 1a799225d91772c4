/-!
# Code pages

Encodings with one byte for each character, given by a table of 256 characters.

## Main definitions

* `CodePage`       : the names and the table of a code page.
* `CodePage.table` : what the bytes stand for.
-/

namespace Transclude

/-- A code page: its name, the other names by which it is known, and the characters of its bytes.
The replacement character stands where there is none. -/
structure CodePage where
  name : String
  aliases : List String := []
  chars : String
  deriving DecidableEq, Repr

namespace CodePage

/-- The characters of ASCII. -/
def ascii : String := String.ofList ((List.range 128).map Char.ofNat)

/-- The control characters that follow ASCII. -/
def controls : String := String.ofList ((List.range 32).map fun n => Char.ofNat (128 + n))

/-- What the bytes stand for, as code points. -/
def table (p : CodePage) : List (Option Nat) :=
  p.chars.toList.map fun c => if c == '�' then none else some c.toNat

end CodePage

end Transclude
