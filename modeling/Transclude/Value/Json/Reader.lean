import Transclude.Number.Reading
import Transclude.Text.Split
import Transclude.Value.Basic

/-!
# Reading JSON

JSON text as values. A number with a fraction or an exponent is a double, every other number an
integer, which has a limited number of digits. The names `NaN`, `Infinity` and `-Infinity` are
numbers too. A name that is repeated in an object keeps its first place and its last value.

## Main definitions

* `Value.ofJson?` : the value of a whole text.
-/

namespace Transclude

namespace Json

open Transclude.Text

/-- Whether JSON lets `c` stand between its tokens. -/
def isGap (c : Char) : Bool := c == ' ' || c == '\t' || c == '\n' || c == '\r'

/-- The text from its next token on. -/
def skipGap (s : List Char) : List Char := s.dropWhile isGap

/-- The value of a hexadecimal digit. -/
def hexValue? (c : Char) : Option Nat :=
  if '0' ≤ c && c ≤ '9' then some (c.toNat - '0'.toNat)
  else if 'a' ≤ c && c ≤ 'f' then some (c.toNat - 'a'.toNat + 10)
  else if 'A' ≤ c && c ≤ 'F' then some (c.toNat - 'A'.toNat + 10)
  else none

/-- The number of four hexadecimal digits. -/
def hexUnit? (a b c d : Char) : Option Nat := do
  let w ← hexValue? a
  let x ← hexValue? b
  let y ← hexValue? c
  let z ← hexValue? d
  pure (((w * 16 + x) * 16 + y) * 16 + z)

/-- A simple escape: the character that a letter after a backslash stands for. -/
def escaped? (c : Char) : Option Char :=
  if c == '"' || c == '\\' || c == '/' then some c
  else if c == 'n' then some '\n'
  else if c == 't' then some '\t'
  else if c == 'r' then some '\r'
  else if c == 'b' then some '\x08'
  else if c == 'f' then some '\x0c'
  else none

/-- The character of a code point; a surrogate that stands alone becomes the replacement
character. -/
def scalar (n : Nat) : Char := if n.isValidChar then Char.ofNat n else '\uFFFD'

/-- The characters of a string from after its opening quote, and the rest after its closing quote.
Control characters are refused. -/
def stringBody : List Char → Option (List Char × List Char)
  | [] => none
  | '"' :: rest => some ([], rest)
  | '\\' :: 'u' :: a :: b :: c :: d :: '\\' :: 'u' :: e :: f :: g :: h :: rest => do
    let high ← hexUnit? a b c d
    if 0xD800 ≤ high ∧ high < 0xDC00 then
      let low ← hexUnit? e f g h
      if 0xDC00 ≤ low ∧ low < 0xE000 then
        let (body, rest) ← stringBody rest
        pure (scalar (65536 + (high - 0xD800) * 1024 + (low - 0xDC00)) :: body, rest)
      else
        let (body, rest) ← stringBody ('\\' :: 'u' :: e :: f :: g :: h :: rest)
        pure (scalar high :: body, rest)
    else
      let (body, rest) ← stringBody ('\\' :: 'u' :: e :: f :: g :: h :: rest)
      pure (scalar high :: body, rest)
  | '\\' :: 'u' :: a :: b :: c :: d :: rest => do
    let n ← hexUnit? a b c d
    let (body, rest) ← stringBody rest
    pure (scalar n :: body, rest)
  | '\\' :: c :: rest => do
    let e ← escaped? c
    let (body, rest) ← stringBody rest
    pure (e :: body, rest)
  | c :: rest =>
    if c.toNat < 32 || c == '\\' then none
    else do
      let (body, rest) ← stringBody rest
      pure (c :: body, rest)
termination_by s => s.length

/-- Whether `c` is one of the ten ASCII digits. -/
def isAsciiDigit (c : Char) : Bool := '0' ≤ c && c ≤ '9'

/-- The exponent at the start of a text, if one is there in full, and the rest. -/
def exponent? : List Char → Option (Int × List Char)
  | e :: rest =>
    if e == 'e' || e == 'E' then
      let (negative, rest) := Number.splitSign rest
      let digits := rest.takeWhile isAsciiDigit
      if digits.isEmpty then none
      else some (Number.signed negative (natOfDigits digits), rest.dropWhile isAsciiDigit)
    else none
  | [] => none

/-- The fraction at the start of a text, if one is there in full, and the rest. -/
def fraction? : List Char → Option (List Char × List Char)
  | '.' :: rest =>
    let digits := rest.takeWhile isAsciiDigit
    if digits.isEmpty then none else some (digits, rest.dropWhile isAsciiDigit)
  | _ => none

/-- The number at the start of a text, and the rest. No zero may stand before other digits. -/
def number (s : List Char) : Option (Value × List Char) :=
  let (negative, unsigned) := match s with
    | '-' :: rest => (true, rest)
    | _ => (false, s)
  let run := unsigned.takeWhile isAsciiDigit
  let whole := if run.head? = some '0' then ['0'] else run
  if whole.isEmpty then none
  else
    let rest := unsigned.drop whole.length
    let fraction := fraction? rest
    let afterFraction := (fraction.map (·.2)).getD rest
    let exponent := exponent? afterFraction
    let after := (exponent.map (·.2)).getD afterFraction
    if fraction.isNone && exponent.isNone then
      match Number.ofDigits whole with
      | .ok n => some (.int (Number.signed negative n), after)
      | .error _ => none
    else
      let places := (fraction.map (·.1)).getD []
      some (.real (Binary64.ofDecimal negative (natOfDigits (whole ++ places))
        ((exponent.map (·.1)).getD 0 - (places.length : Int))), after)

/-- The words that stand for values. -/
def words : List (List Char × Value) :=
  [("null".toList, .null), ("true".toList, .bool true), ("false".toList, .bool false),
   ("NaN".toList, .nan), ("Infinity".toList, .real (.infinite false)),
   ("-Infinity".toList, .real (.infinite true))]

/-- The word at the start of a text, and the rest. -/
def word (s : List Char) : Option (Value × List Char) :=
  words.findSome? fun (name, v) => (after? name s).map fun rest => (v, rest)

mutual

/-- The value at the start of a text, and the rest. The first argument bounds the number of nested
and consecutive parts. -/
def value : Nat → List Char → Option (Value × List Char)
  | 0, _ => none
  | fuel + 1, s =>
    match skipGap s with
    | '"' :: rest => (stringBody rest).map fun (body, rest) => (.text (String.ofList body), rest)
    | '[' :: rest =>
      match skipGap rest with
      | ']' :: rest => some (.list [], rest)
      | other => (items fuel other).map fun (vs, rest) => (.list vs, rest)
    | '{' :: rest =>
      match skipGap rest with
      | '}' :: rest => some (.map [], rest)
      | other => (members fuel other).map fun (es, rest) => (.map (Mapping.ofList es), rest)
    | other => (word other).or (number other)

/-- The items of a list up to its closing bracket, and the rest. -/
def items : Nat → List Char → Option (List Value × List Char)
  | 0, _ => none
  | fuel + 1, s => do
    let (v, rest) ← value fuel s
    match skipGap rest with
    | ',' :: rest =>
      let (vs, rest) ← items fuel rest
      pure (v :: vs, rest)
    | ']' :: rest => pure ([v], rest)
    | _ => none

/-- The members of an object up to its closing brace, and the rest. -/
def members : Nat → List Char → Option (List (Scalar × Value) × List Char)
  | 0, _ => none
  | fuel + 1, s =>
    match skipGap s with
    | '"' :: rest => do
      let (name, rest) ← stringBody rest
      match skipGap rest with
      | ':' :: rest =>
        let (v, rest) ← value fuel rest
        match skipGap rest with
        | ',' :: rest =>
          let (es, rest) ← members fuel rest
          pure ((.text (String.ofList name), v) :: es, rest)
        | '}' :: rest => pure ([(.text (String.ofList name), v)], rest)
        | _ => none
      | _ => none
    | _ => none

end

/-- The value of a whole text. Every part of a value has at least one character, so twice the
length of the text bounds the number of parts. -/
def document? (s : List Char) : Option Value := do
  let (v, rest) ← value (2 * s.length + 2) s
  if (skipGap rest).isEmpty then some v else none

end Json

/-- The value of a JSON text. -/
def Value.ofJson? (s : String) : Option Value := Json.document? s.toList

end Transclude
