import Transclude.Text.Split

/-!
# Kinds of YAML nodes

A node has a kind, which a tag names. Without a tag a scalar in quotes is a text, and the spelling
of a plain scalar tells whether it is null, a truth value, a number, a date or a moment, or else a
text. The printer quotes a text that would be read as something else.

## Main definitions

* `Yaml.Kind`         : what a node stands for.
* `Yaml.Kind.ofPlain` : the kind of a plain scalar.
* `Yaml.Kind.ofTag`   : the kind that a tag names.
* `Yaml.Stamp.ofText?` : a date, perhaps with a time of day, in its parts.
-/

namespace Transclude.Yaml

open Transclude.Text

/-- What a node stands for. -/
inductive Kind
  | null
  | bool
  | int
  | real
  /-- A date, perhaps with a time of day. -/
  | moment
  /-- Bytes in base 64. -/
  | bytes
  | text
  | list
  | table
  /-- A list of pairs, each written as a table with one entry. -/
  | pairs
  /-- A table without values. -/
  | set
  /-- The key that merges tables. -/
  | merge
  /-- The key for a default value. -/
  | default
  | unknown
  deriving DecidableEq, Repr

/-! ## Digits -/

/-- Whether `c` is an ASCII digit. -/
def isDigit (c : Char) : Bool := '0' ≤ c && c ≤ '9'

/-- Whether `c` is an ASCII digit or an underscore. -/
def isSpacedDigit (c : Char) : Bool := isDigit c || c == '_'

/-- Whether `c` is a digit of a number in base sixteen. -/
def isHexDigit (c : Char) : Bool := isDigit c || ('a' ≤ c && c ≤ 'f') || ('A' ≤ c && c ≤ 'F')

/-- The value of a digit in a base up to sixteen. -/
def digitOf (c : Char) : Nat :=
  if isDigit c then c.toNat - 48
  else if 'a' ≤ c && c ≤ 'f' then c.toNat - 87
  else c.toNat - 55

/-- The number that digits denote in a base. -/
def numberIn (base : Nat) (s : List Char) : Nat := s.foldl (fun n c => base * n + digitOf c) 0

/-- The text without a sign at its start. -/
def unsigned : List Char → List Char
  | '-' :: rest => rest
  | '+' :: rest => rest
  | s => s

/-- Whether a text is not empty and all its characters belong to a class. -/
def allIn (isMember : Char → Bool) (s : List Char) : Bool := !s.isEmpty && s.all isMember

/-! ## Numbers -/

/-- Whether a text is a number below sixty with at most two digits. -/
def isSixtieth (s : List Char) : Bool :=
  match s with
  | [a] => isDigit a
  | [a, b] => '0' ≤ a && a ≤ '5' && isDigit b
  | _ => false

/-- The parts of a text between colons. -/
def colonParts (s : List Char) : List (List Char) := fields (· == ':') s

/-- Whether a text is a digit and then digits and underscores. -/
def isCount (s : List Char) : Bool :=
  match s with
  | c :: rest => isDigit c && rest.all isSpacedDigit
  | [] => false

/-- Whether a text is an integer: in base two, eight, ten, sixteen, or in parts of sixty. -/
def isInt (s : List Char) : Bool :=
  match unsigned s with
  | ['0'] => true
  | '0' :: 'b' :: rest => allIn (fun c => c == '0' || c == '1' || c == '_') rest
  | '0' :: 'x' :: rest => allIn (fun c => isHexDigit c || c == '_') rest
  | '0' :: rest => allIn (fun c => ('0' ≤ c && c ≤ '7') || c == '_') rest
  | rest =>
    match colonParts rest with
    | first :: more => isCount first && more.all isSixtieth
    | [] => false

/-- Whether a text is empty or an exponent with a sign. -/
def isExponent (s : List Char) : Bool :=
  match s with
  | [] => true
  | e :: sign :: digits => (e == 'e' || e == 'E') && (sign == '-' || sign == '+') &&
      allIn isDigit digits
  | _ => false

/-- Whether a text is the part of a real after its point. -/
def isFraction (s : List Char) : Bool := isExponent (s.dropWhile isSpacedDigit)

/-- Whether a text is a real: it has a point, and an exponent has a sign. -/
def isReal (s : List Char) : Bool :=
  let infinite := [".inf", ".Inf", ".INF"].contains (String.ofList (unsigned s))
  let undefined := [".nan", ".NaN", ".NAN"].contains (String.ofList s)
  let pointed := match cut (· == '.') (unsigned s) with
    | (whole, some fraction) =>
      match colonParts whole with
      | [first] => isCount first && isFraction fraction
      | first :: more => isCount first && more.all isSixtieth && fraction.all isSpacedDigit
      | [] => false
    | (_, none) => false
  let bare := match s with
    | '.' :: fraction => isCount (fraction.takeWhile isSpacedDigit) && isFraction fraction
    | _ => false
  infinite || undefined || pointed || bare

/-! ## Dates and times of day -/

/-- A date, perhaps with a time of day, as it is written. -/
structure Stamp where
  year : Nat
  month : Nat
  day : Nat
  /-- Hour, minute, second, the digits of the fraction, and the distance of the zone in seconds. -/
  clock : Option (Nat × Nat × Nat × List Char × Option Int)

namespace Stamp

/-- The number of the next digits, between `least` and `most` of them, and the rest of a text. -/
def digits? (least most : Nat) (s : List Char) : Option (Nat × List Char) :=
  let digits := (s.take most).takeWhile isDigit
  if digits.length < least then none else some (numberIn 10 digits, s.drop digits.length)

/-- Whether `c` is a space or a tab. -/
def isGap (c : Char) : Bool := c == ' ' || c == '\t'

/-- The distance of the time zone that a text is, if it is not empty. -/
def zone? (s : List Char) : Option (Option Int) :=
  match s.dropWhile isGap with
  | ['Z'] => some (some 0)
  | sign :: rest =>
    if sign == '-' || sign == '+' then do
      let (hours, rest) ← digits? 1 2 rest
      let minutes ← match rest with
        | [] => some 0
        | _ => do
          let (minutes, rest) ← digits? 2 2 (← after? [':'] rest)
          if rest.isEmpty then some minutes else none
      let distance : Int := (hours * 3600 + minutes * 60 : Nat)
      some (some (if sign == '-' then -distance else distance))
    else none
  | [] => if s.isEmpty then some none else none

/-- The time of day that a text is, after the date. -/
def clock? (s : List Char) : Option (Nat × Nat × Nat × List Char × Option Int) := do
  let gap := s.dropWhile isGap
  let s ← if gap.length < s.length then some gap
    else match s with
      | 'T' :: rest | 't' :: rest => some rest
      | _ => none
  let (hour, s) ← digits? 1 2 s
  let (minute, s) ← digits? 2 2 (← after? [':'] s)
  let (second, s) ← digits? 2 2 (← after? [':'] s)
  let (fraction, s) := match s with
    | '.' :: rest => (rest.takeWhile isDigit, rest.dropWhile isDigit)
    | s => ([], s)
  let zone ← zone? s
  pure (hour, minute, second, fraction, zone)

/-- The date, perhaps with a time of day, that a text is. -/
def ofText? (s : List Char) : Option Stamp := do
  let (year, s) ← digits? 4 4 s
  let (month, s) ← digits? 1 2 (← after? ['-'] s)
  let (day, s) ← digits? 1 2 (← after? ['-'] s)
  match s with
  | [] => pure ⟨year, month, day, none⟩
  | s => pure ⟨year, month, day, some (← clock? s)⟩

end Stamp

/-- Whether a plain text is a date, perhaps with a time of day. A date alone has two digits for the
month and for the day. -/
def isMoment (s : List Char) : Bool :=
  match Stamp.ofText? s with
  | some stamp => stamp.clock.isSome || s.length == 10
  | none => false

/-! ## Kinds -/

/-- The spellings of true. -/
def trueWords : List String :=
  ["yes", "Yes", "YES", "true", "True", "TRUE", "on", "On", "ON"]

/-- The spellings of false. -/
def falseWords : List String :=
  ["no", "No", "NO", "false", "False", "FALSE", "off", "Off", "OFF"]

/-- The spellings of null. -/
def nullWords : List String := ["", "~", "null", "Null", "NULL"]

namespace Kind

/-- The kind of a plain scalar. -/
def ofPlain (text : String) : Kind :=
  let s := text.toList
  if trueWords.contains text || falseWords.contains text then .bool
  else if nullWords.contains text then .null
  else if text = "<<" then .merge
  else if text = "=" then .default
  else if isReal s then .real
  else if isInt s then .int
  else if isMoment s then .moment
  else .text

/-- What the tags of the standard kinds begin with. -/
def standardTags : String := "tag:yaml.org,2002:"

/-- The kinds that tags name. -/
def names : List (String × Kind) :=
  [("null", .null), ("bool", .bool), ("int", .int), ("float", .real), ("timestamp", .moment),
   ("binary", .bytes), ("str", .text), ("seq", .list), ("map", .table), ("omap", .pairs),
   ("pairs", .pairs), ("set", .set), ("merge", .merge), ("value", .default)]

/-- The kind that a tag names. -/
def ofTag (tag : String) : Kind :=
  ((names.find? fun entry => standardTags ++ entry.1 = tag).map (·.2)).getD .unknown

end Kind

end Transclude.Yaml
