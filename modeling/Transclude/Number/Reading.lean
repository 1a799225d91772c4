import Transclude.Number.Binary64
import Transclude.Text.Blank
import Transclude.Text.Digit
import Transclude.Text.Shown

/-!
# Reading numbers from text

A lenient reading takes the number that a text starts with and ignores what follows it. Digits of
every script count. White space may stand before a number, but the information separators, which
are white space elsewhere, make it unreadable; and no integer may have more than 4300 digits.

## Main definitions

* `NumeralError`        : why a number cannot be read.
* `Number.leadingInt`   : the integer that a text starts with.
* `Number.leadingReal`  : the double that a text starts with.
* `Number.wholeIntIn`   : the integer that a whole text is in a base.
* `Number.wholeReal`    : the double that a whole text is.
-/

namespace Transclude

/-- Why a text that looks like a number cannot be read as one. -/
inductive NumeralError
  | notAnInteger (base : Nat) (text : String)
  | notAReal (text : String)
  | tooManyDigits (count : Nat)
  deriving DecidableEq, Repr

namespace Number

open Transclude.Text

/-- The greatest number of digits of an integer. -/
def maxDigits : Nat := 4300

end Number

/-- The reason in words. An integer is quoted up to a length of two hundred characters. -/
def NumeralError.message : NumeralError → String
  | .notAnInteger base text =>
    let shown := String.ofList ((Text.shown text.toList).take 200)
    s!"invalid literal for int() with base {base}: {shown}"
  | .notAReal text => s!"could not convert string to float: {Text.quoted text}"
  | .tooManyDigits count =>
    s!"Exceeds the limit ({Number.maxDigits} digits) for integer string conversion: value has " ++
      s!"{count} digits; use sys.set_int_max_str_digits() to increase the limit"

namespace Number

open Transclude.Text

/-- A leading sign, as whether it is a minus, and the rest. -/
def splitSign : List Char → Bool × List Char
  | '-' :: rest => (true, rest)
  | '+' :: rest => (false, rest)
  | s => (false, s)

/-- The integer of the given sign and magnitude. -/
def signed (negative : Bool) (n : Nat) : Int := if negative then -(n : Int) else n

/-- Whether `c` is an information separator, which no number allows around it. -/
def isSeparator (c : Char) : Bool := '\x1c' ≤ c && c ≤ '\x1f'

/-- Whether a number allows `c` around it. -/
def isPadding (c : Char) : Bool := isBlank c && !isSeparator c

/-- The number that digits denote, if there are not too many of them. -/
def ofDigits (digits : List Char) : Except NumeralError Nat :=
  if maxDigits < digits.length then .error (.tooManyDigits digits.length)
  else .ok (natOfDigits digits)

/-- The part of a text before the given rest of it. -/
def consumed (s rest : List Char) : String := String.ofList (s.take (s.length - rest.length))

/-- The integer that a text starts with, after white space and an optional sign; zero if there is
none. -/
def leadingInt (s : List Char) : Except NumeralError Int :=
  let (negative, rest) := splitSign (trimStart s)
  let digits := rest.takeWhile isDigit
  if digits.isEmpty then .ok 0
  else if (s.takeWhile isBlank).any isSeparator then
    .error (.notAnInteger 10 (consumed s (rest.dropWhile isDigit)))
  else (ofDigits digits).map (signed negative)

/-- The exponent at the start of a text, or zero if there is none, and the rest. -/
def leadingExponent (s : List Char) : Int × List Char :=
  match s with
  | c :: rest =>
    let (negative, rest) := splitSign rest
    let digits := rest.takeWhile isDigit
    if (c == 'e' || c == 'E') && !digits.isEmpty then
      (signed negative (natOfDigits digits), rest.dropWhile isDigit)
    else (0, s)
  | [] => (0, [])

/-- The double that a text starts with, and the rest, if there is one. At least one digit stands on
one side of the decimal point. -/
def realPrefix? (s : List Char) : Option (Binary64 × List Char) :=
  let (negative, rest) := splitSign s
  let whole := rest.takeWhile isDigit
  let (fraction, rest) := match rest.dropWhile isDigit with
    | '.' :: after => (after.takeWhile isDigit, after.dropWhile isDigit)
    | other => ([], other)
  if whole.isEmpty && fraction.isEmpty then none
  else
    let (exponent, rest) := leadingExponent rest
    some (Binary64.ofDecimal negative (natOfDigits (whole ++ fraction))
      (exponent - (fraction.length : Int)), rest)

/-- The double that a text starts with, after white space and an optional sign; zero if there is
none. -/
def leadingReal (s : List Char) : Except NumeralError Binary64 :=
  match realPrefix? (trimStart s) with
  | none => .ok (Binary64.zero false)
  | some (x, rest) =>
    if (s.takeWhile isBlank).any isSeparator then .error (.notAReal (consumed s rest)) else .ok x

/-- Whether underscores in a text stand alone between other characters. -/
def separates : List Char → Bool
  | [] => true
  | ['_'] => false
  | '_' :: '_' :: _ => false
  | _ :: rest => separates rest

/-- The text without padding at either end. -/
def unpadded (s : List Char) : List Char :=
  ((s.dropWhile isPadding).reverse.dropWhile isPadding).reverse

/-- The value of a digit in a base: a decimal digit of any script, or a letter. -/
def digitIn? (base : Nat) (c : Char) : Option Nat :=
  let lowered := c.toLower
  let value := match digitValue? c with
    | some n => some n
    | none => if 'a' ≤ lowered && lowered ≤ 'z' then some (lowered.toNat - 87) else none
  value.filter (· < base)

/-- The number that digits denote in a base, if there are not too many of them. Only in base ten
their count has a limit. -/
def ofDigitsIn (base : Nat) (digits : List Char) : Except NumeralError Nat :=
  if base = 10 then ofDigits digits
  else .ok (digits.foldl (fun n c => base * n + (digitIn? base c).getD 0) 0)

/-- The letter that marks a base after a zero. -/
def baseMark? (base : Nat) : Option Char :=
  if base = 2 then some 'b' else if base = 8 then some 'o' else if base = 16 then some 'x' else none

/-- The text without the mark of a base at its start. An underscore may follow the mark. -/
def afterBaseMark (base : Nat) (s : List Char) : List Char :=
  match s with
  | '0' :: c :: rest =>
    if some c.toLower == baseMark? base then
      if rest.head? == some '_' then rest.drop 1 else rest
    else s
  | s => s

/-- The integer that a whole text is in a base, apart from padding: an optional sign, perhaps the
mark of the base, and digits, which single underscores may separate. Too many digits are refused
before anything that follows them. -/
def wholeIntIn (base : Nat) (text : String) : Except NumeralError Int :=
  let refused : Except NumeralError Int := .error (.notAnInteger base text)
  let (negative, rest) := splitSign (unpadded text.toList)
  let rest := afterBaseMark base rest
  let run := rest.takeWhile fun c => (digitIn? base c).isSome || c == '_'
  if run.isEmpty || run.head? == some '_' || !separates run then refused
  else
    match ofDigitsIn base (run.filter (· != '_')) with
    | .error e => .error e
    | .ok n => if run.length < rest.length then refused else .ok (signed negative n)

/-- The integer that a whole text is in base ten. -/
def wholeInt (text : String) : Except NumeralError Int := wholeIntIn 10 text

/-- The double that a whole text is, apart from padding: an optional sign and digits with a point or
an exponent, or the name of infinity, in letters of either case. None is what is no number. -/
def wholeReal (text : String) : Except NumeralError (Option Binary64) :=
  let s := unpadded text.toList
  let (negative, word) := splitSign s
  let word := String.ofList (word.map Char.toLower)
  if word = "inf" || word = "infinity" then .ok (some (.infinite negative))
  else if word = "nan" then .ok none
  else
    match realPrefix? s with
    | some (x, []) => .ok (some x)
    | _ => .error (.notAReal text)

end Number

end Transclude
