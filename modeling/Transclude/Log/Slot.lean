import Transclude.Number.Binary64
import Transclude.Text.Shown

/-!
# Slots in the format of log lines

A slot such as `%(name)-9.4s` names a part of a record and says how that part is shown: a letter at
its end for the notation, and before that marks, a width, and a precision. A text has no numeric
notation, so not every slot can be filled.

## Main definitions

* `Slot`       : a place in a line for a part of a record.
* `Slot.read?` : the slot at the start of a text.
* `Slot.fill?` : a part of a record as it stands in a slot.
-/

namespace Transclude

/-- A place in a line for a part of a record. -/
structure Slot where
  name : List Char
  /-- Whether the part stands at the left of its place. -/
  left : Bool := false
  /-- Whether a number is filled up with zeros. -/
  zeros : Bool := false
  /-- What stands before a number without a sign. -/
  sign : Option Char := none
  /-- Whether a number shows its base, or a point in any case. -/
  explicit : Bool := false
  /-- The least number of characters. -/
  width : Nat := 0
  /-- The greatest number of characters of a text, or the number of digits of a number. -/
  precision : Option Nat := none
  letter : Char
  deriving DecidableEq, Repr

/-- A part of a record. -/
inductive Part
  | text (s : String)
  | number (n : Nat)
  /-- Something of another kind, as it is shown. -/
  | other (shown : String)
  deriving DecidableEq, Repr

namespace Slot

/-! ## Reading -/

/-- The marks that may follow the name of a slot. -/
def marks : List Char := ['#', '0', '+', ' ', '-']

/-- The greatest width, and the greatest precision. -/
def maxWidth : Nat := 9223372036854775807

/-- The greatest precision. -/
def maxPrecision : Nat := 2147483647

/-- The name up to the parenthesis that closes the first `depth` ones, and what follows. -/
def nameFrom : Nat → List Char → Option (List Char × List Char)
  | _, [] => none
  | depth, c :: rest =>
    if c == ')' && depth == 0 then some ([], rest)
    else
      let depth := if c == '(' then depth + 1 else if c == ')' then depth - 1 else depth
      (nameFrom depth rest).map fun (name, rest) => (c :: name, rest)

/-- The number that digits denote; none is zero. -/
def numberOf (digits : List Char) : Nat :=
  digits.foldl (fun n c => 10 * n + (c.toNat - 48)) 0

/-- The precision at the start of a text, if there is one, and the rest. A point alone asks for
none. -/
def precisionOf : List Char → Option Nat × List Char
  | '.' :: rest => (some (numberOf (rest.takeWhile Char.isDigit)), rest.dropWhile Char.isDigit)
  | s => (none, s)

/-- The text without a letter for the size of a number, which has no effect. -/
def afterSize : List Char → List Char
  | 'h' :: rest | 'l' :: rest | 'L' :: rest => rest
  | s => s

/-- The slot at the start of a text that follows a percent sign, and the rest of the text. -/
def read? : List Char → Option (Slot × List Char)
  | '(' :: s => do
    let (name, s) ← nameFrom 0 s
    let given := s.takeWhile marks.contains
    let s := s.dropWhile marks.contains
    let width := numberOf (s.takeWhile Char.isDigit)
    let (precision, s) := precisionOf (s.dropWhile Char.isDigit)
    match afterSize s with
    | [] => none
    | last :: rest =>
      if maxWidth < width || maxPrecision < precision.getD 0 then none
      else
        some
          ({ name := name
             left := given.contains '-'
             zeros := given.contains '0'
             sign := if given.contains '+' then some '+'
               else if given.contains ' ' then some ' ' else none
             explicit := given.contains '#'
             width := width
             precision := precision
             letter := last }, rest)
  | _ => none

/-! ## Numbers -/

/-- A number without a sign: the mark of its base, and its digits. -/
structure Digits where
  mark : List Char := []
  body : List Char
  deriving DecidableEq, Repr

/-- Digits with zeros in front of them up to a count. -/
def atLeast (count : Nat) (digits : List Char) : List Char :=
  List.replicate (count - digits.length) '0' ++ digits

/-- A whole number in a base. -/
def whole (slot : Slot) (base : Nat) (mark : List Char) (n : Nat) : Digits :=
  { mark := if slot.explicit then mark else []
    body := atLeast (slot.precision.getD 1) (Nat.toDigits base n) }

/-- The digits with a point in front of the last `places` of them. -/
def pointed (explicit : Bool) (places : Nat) (digits : List Char) : List Char :=
  let point := if places = 0 && !explicit then [] else ['.']
  digits.take (digits.length - places) ++ point ++ digits.drop (digits.length - places)

/-- An exponent with its sign and at least two digits. -/
def exponentText (e : Nat) : List Char := ['e', '+'] ++ atLeast 2 (Nat.toDigits 10 e)

/-- A number rounded to a count of digits, and the exponent of the first of them. -/
def rounded (count n : Nat) : List Char × Nat :=
  let digits := Nat.toDigits 10 n
  if digits.length ≤ count then
    (digits ++ List.replicate (count - digits.length) '0', digits.length - 1)
  else
    let unit := Nat.pow 10 (digits.length - count)
    let kept := Nat.toDigits 10 (Binary64.roundQuotient n unit)
    if kept.length ≤ count then (kept, digits.length - 1) else (kept.dropLast, digits.length)

/-- A number with a count of places after the point. -/
def fixed (explicit : Bool) (places n : Nat) : List Char :=
  pointed explicit places (Nat.toDigits 10 n ++ List.replicate places '0')

/-- A number as one digit, a count of places and an exponent. -/
def scientific (explicit : Bool) (places n : Nat) : List Char :=
  let (digits, e) := rounded (places + 1) n
  pointed explicit places digits ++ exponentText e

/-- The text without zeros, and then a point, at its end. -/
def withoutZeros (s : List Char) : List Char :=
  if s.contains '.' then
    let kept := s.reverse.dropWhile (· == '0')
    (if kept.head? == some '.' then kept.drop 1 else kept).reverse
  else s

/-- A number with a count of digits that matter, with an exponent where it is too great. -/
def general (explicit : Bool) (count n : Nat) : List Char :=
  let count := max count 1
  let (digits, e) := rounded count n
  let trimmed (s : List Char) : List Char := if explicit then s else withoutZeros s
  if e < count then trimmed (pointed explicit (count - 1 - e) digits)
  else trimmed (pointed explicit (count - 1) digits) ++ exponentText e

/-- A number in the notation of a slot, if it is one for numbers. -/
def digits? (slot : Slot) (n : Nat) : Option Digits :=
  let places := slot.precision.getD 6
  let upper (d : Digits) : Digits := ⟨d.mark.map Char.toUpper, d.body.map Char.toUpper⟩
  match slot.letter with
  | 'd' | 'i' | 'u' => some (whole slot 10 [] n)
  | 'o' => some (whole slot 8 ['0', 'o'] n)
  | 'x' => some (whole slot 16 ['0', 'x'] n)
  | 'X' => some (upper (whole slot 16 ['0', 'x'] n))
  | 'f' | 'F' => some { body := fixed slot.explicit places n }
  | 'e' => some { body := scientific slot.explicit places n }
  | 'E' => some (upper { body := scientific slot.explicit places n })
  | 'g' => some { body := general slot.explicit places n }
  | 'G' => some (upper { body := general slot.explicit places n })
  | _ => none

/-! ## Filling -/

/-- A text in the place of a slot. -/
def padded (slot : Slot) (s : List Char) : List Char :=
  let padding := List.replicate (slot.width - s.length) ' '
  if slot.left then s ++ padding else padding ++ s

/-- A number in the place of a slot. -/
def paddedNumber (slot : Slot) (d : Digits) : List Char :=
  let front := slot.sign.toList ++ d.mark
  if slot.zeros && !slot.left then front ++ atLeast (slot.width - front.length) d.body
  else padded slot (front ++ d.body)

/-- A text that is quoted as in a message, and in ASCII alone. -/
def quotedAscii (s : List Char) : List Char :=
  (Text.shown s).flatMap fun c => if c.toNat < 128 then [c] else Text.numericEscape c

/-- A part of a record as it stands in a slot, if it can be shown in the notation of the slot. -/
def fill? (slot : Slot) (p : Part) : Option (List Char) :=
  let shown (s : List Char) : List Char :=
    padded slot (match slot.precision with
      | some n => s.take n
      | none => s)
  let plainly : List Char := match p with
    | .text s => s.toList
    | .number n => Nat.toDigits 10 n
    | .other shown => shown.toList
  match slot.letter, p with
  | 's', _ => some (shown plainly)
  | 'r', .text s => some (shown (Text.shown s.toList))
  | 'a', .text s => some (shown (quotedAscii s.toList))
  | 'r', _ | 'a', _ => some (shown plainly)
  | 'c', .text s => if s.length = 1 then some (padded slot s.toList) else none
  | 'c', .number n => if n.isValidChar then some (padded slot [Char.ofNat n]) else none
  | _, .number n => (digits? slot n).map (paddedNumber slot)
  | _, _ => none

end Slot

end Transclude
