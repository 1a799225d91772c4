import Transclude.Number.Reading
import Transclude.Text.Base64
import Transclude.Text.LowerCase
import Transclude.Value.Basic
import Transclude.Value.Yaml.Kind

/-!
# Values of YAML scalars

The value that the text of a scalar stands for, given the kind of the scalar. A text may look like a
value of its kind and still have none: a month may be too large, or an integer too long.

## Main definitions

* `Yaml.ScalarError` : why a scalar has no value.
* `Yaml.YamlError`   : why a document has no value.
* `Yaml.Kind.read`   : the value of a scalar.
-/

namespace Transclude.Yaml

open Transclude.Text

/-- Why a scalar has no value although it is well written. -/
inductive ScalarError
  | numeral (e : NumeralError)
  | calendar (e : CalendarError)
  /-- An escape with a number that no character has. -/
  | codePoint (n : Nat)
  | notABool (word : String)
  /-- A number without digits. -/
  | noDigits
  | notAMoment
  deriving DecidableEq, Repr

/-- The reason in words. -/
def ScalarError.message : ScalarError → String
  | .numeral e => e.message
  | .calendar e => e.message
  | .codePoint n =>
    if n < Nat.pow 2 31 then "chr() arg not in range(0x110000)"
    else "Python int too large to convert to C int"
  | .notABool word => Text.quoted word
  | .noDigits => "string index out of range"
  | .notAMoment => "'NoneType' object has no attribute 'groupdict'"

/-- Why a document has no value. -/
inductive YamlError
  | malformed
  | scalar (e : ScalarError)
  deriving DecidableEq, Repr

/-- A sign at the start of a text, as whether it is a minus, and the rest without underscores. The
text has to have a character that is no underscore. -/
def signAndRest (s : List Char) : Except ScalarError (Bool × List Char) :=
  let s := s.filter (· != '_')
  if s.isEmpty then .error .noDigits else .ok (s.head? == some '-', unsigned s)

/-- The integer that a text is: in base two, eight, ten or sixteen, or in parts of sixty. -/
def intOf (s : List Char) : Except ScalarError Int := do
  let (negative, rest) ← signAndRest s
  let whole (base : Nat) (digits : List Char) : Except ScalarError Int :=
    (Number.wholeIntIn base (String.ofList digits)).mapError .numeral
  let n ← match rest with
    | [] => throw .noDigits
    | ['0'] => pure 0
    | '0' :: 'b' :: digits => whole 2 digits
    | '0' :: 'x' :: digits => whole 16 digits
    | '0' :: _ => whole 8 rest
    | _ => do
      let parts ← (colonParts rest).mapM (whole 10)
      pure (parts.foldl (fun n part => 60 * n + part) 0)
  pure (if negative then -n else n)

/-- The sum of parts of sixty, the least of them first, with one rounding for every step. -/
def sixtiesFrom (unit : Nat) (sum : Binary64) : List Binary64 → Binary64
  | [] => sum
  | x :: rest => sixtiesFrom (60 * unit) (sum.add (x.mul (.ofRatio false unit 1))) rest

/-- The real that a text is: infinite, undefined, a decimal number, or in parts of sixty. -/
def realOf (s : List Char) : Except ScalarError Scalar := do
  let (negative, rest) ← signAndRest (lower s)
  let signed (x : Binary64) : Scalar := .real (if negative then x.neg else x)
  if rest = ".inf".toList then pure (signed (.infinite false))
  else if rest = ".nan".toList then pure .nan
  else
    let parts ← (colonParts rest).mapM fun part =>
      (Number.wholeReal (String.ofList part)).mapError .numeral
    match parts with
    | [some x] => pure (signed x)
    | parts =>
      if parts.contains none then pure .nan
      else pure (signed (sixtiesFrom 1 (.zero false) (parts.filterMap id).reverse))

/-- The truth value that a word stands for. -/
def boolOf (s : List Char) : Except ScalarError Bool :=
  let word := String.ofList (lower s)
  if trueWords.contains word then .ok true
  else if falseWords.contains word then .ok false
  else .error (.notABool word)

/-- The digits of a fraction as a number of millionths; further digits do not count. -/
def millionths (fraction : List Char) : Nat :=
  numberIn 10 ((fraction ++ List.replicate 6 '0').take 6)

/-- The date or the moment that a text is. -/
def momentOf (s : List Char) : Except ScalarError Scalar :=
  match Stamp.ofText? s with
  | none => .error .notAMoment
  | some stamp =>
    let date : Date := ⟨stamp.year, stamp.month, stamp.day⟩
    match stamp.clock with
    | none => (date.checked.map Scalar.date).mapError .calendar
    | some (hour, minute, second, fraction, zone) =>
      let moment : Moment := ⟨date, hour, minute, second, millionths fraction, zone⟩
      (moment.checked.map Scalar.moment).mapError .calendar

/-- The value of a scalar of a kind. -/
def Kind.read (k : Kind) (text : String) : Except YamlError Scalar :=
  let s := text.toList
  match k with
  | .null => .ok .null
  | .text => .ok (.text text)
  | .bool => ((boolOf s).map .bool).mapError .scalar
  | .int => ((intOf s).map .int).mapError .scalar
  | .real => (realOf s).mapError .scalar
  | .moment => (momentOf s).mapError .scalar
  | .bytes =>
    match Base64.decode? s with
    | some content => .ok (.bytes content)
    | none => .error .malformed
  | _ => .error .malformed

end Transclude.Yaml
