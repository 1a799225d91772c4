import Transclude.Number.Reading
import Transclude.Text.Split

/-!
# Line ranges

The lines of a file that an include asks for by number: ranges between commas or semicolons, each a
number, `first..last`, or `first..` for everything from a line on.

## Main definitions

* `LineRange.parse`    : the ranges of a text.
* `LineRange.contains` : whether a range holds a line number.
-/

namespace Transclude

open Transclude.Text

/-- The lines from `first` on, up to `last` if it is given. -/
structure LineRange where
  first : Int
  last : Option Int
  deriving DecidableEq, Repr

namespace LineRange

/-- Whether the range holds a line number. -/
def contains (r : LineRange) (n : Nat) : Bool :=
  decide (r.first ≤ n) && match r.last with
    | none => true
    | some last => decide ((n : Int) ≤ last)

/-- The end of a range. A blank or negative one means that there is no end. -/
def lastOf (text : List Char) : Except NumeralError (Option Int) :=
  if allBlank text then .ok none
  else (Number.leadingInt text).map fun last => if last < 0 then none else some last

/-- The range of a token. -/
def ofToken (token : List Char) : Except NumeralError LineRange :=
  match cutText? ['.', '.'] token with
  | some (first, last) => do
    let last ← lastOf last
    let first ← Number.leadingInt first
    pure ⟨first, last⟩
  | none => (Number.leadingInt token).map fun n => ⟨n, some n⟩

/-- Whether `c` stands between the parts of a selection. -/
def isSeparator (c : Char) : Bool := c == ',' || c == ';'

/-- The tokens of a text, without blanks around them. -/
def tokens (value : String) : List (List Char) :=
  ((fields isSeparator value.toList).map trim).filter fun token => !token.isEmpty

/-- The ranges of tokens, or why the first number that cannot be read is refused. -/
def ofTokens : List (List Char) → Except NumeralError (List LineRange)
  | [] => .ok []
  | token :: rest => do
    let range ← ofToken token
    let ranges ← ofTokens rest
    pure (range :: ranges)

/-- The ranges of a text. -/
def parse (value : String) : Except NumeralError (List LineRange) := ofTokens (tokens value)

/-- The numbered lines that some range holds. -/
def select (ranges : List LineRange) (lines : List (Nat × String)) : List (Nat × String) :=
  lines.filter fun line => ranges.any (·.contains line.1)

end LineRange

end Transclude
