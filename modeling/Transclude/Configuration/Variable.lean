import Transclude.Configuration.Layer
import Transclude.Number.Reading
import Transclude.Text.LowerCase
import Transclude.Text.Split
import Transclude.Value.Json.Reader

/-!
# Configuration from the environment

A variable of the environment sets one value of the configuration. Its name gives the path, with two
underscores between the parts, and its text gives the value.

## Main definitions

* `Variable.value`   : the value that a text stands for.
* `Variable.path?`   : the path that the name of a variable stands for.
* `Variable.applied` : a configuration with the variables of an environment applied.
-/

namespace Transclude.Variable

open Transclude.Text

/-- Whether a text is an integer: an optional sign and digits. -/
def isInt (s : List Char) : Bool :=
  let digits := (Number.splitSign s).2
  !digits.isEmpty && digits.all isDigit

/-- Whether a text is a decimal fraction: an optional sign and digits with a point, on at least one
side of it. -/
def isFraction (s : List Char) : Bool :=
  match cut (· == '.') (Number.splitSign s).2 with
  | (whole, some fraction) =>
    whole.all isDigit && fraction.all isDigit && !(whole.isEmpty && fraction.isEmpty)
  | (_, none) => false

/-- Whether a text stands between brackets or between braces. -/
def isEnclosed (s : List Char) : Bool :=
  (s.head? == some '\x7b' && s.getLast? == some '\x7d') ||
    (s.head? == some '[' && s.getLast? == some ']')

/-- The value that a text stands for: null, a truth value, a number, JSON between brackets or
braces, or else the text itself, without blanks around it. An integer is read with the blanks, of
which it may not allow all. -/
def value (text : String) : Except NumeralError Value :=
  let s := trim text.toList
  if s = "null".toList then .ok .null
  else if lower s = "true".toList then .ok (.bool true)
  else if lower s = "false".toList then .ok (.bool false)
  else if isInt s then (Number.wholeInt text).map .int
  else if isFraction s then (Number.leadingReal s).map .real
  else if isEnclosed s then
    .ok ((Value.ofJson? (String.ofList s)).getD (.text (String.ofList s)))
  else .ok (.text (String.ofList s))

/-- How the names of the variables begin. -/
def nameStart : String := "DOCFOLD_"

/-- The parts of a text between pairs of underscores, given that `part` precedes it, in reverse. -/
def partsFrom (part : List Char) : List Char → List (List Char)
  | '_' :: '_' :: rest => part.reverse :: partsFrom [] rest
  | c :: rest => partsFrom (c :: part) rest
  | [] => [part.reverse]

/-- The path that the name of a variable stands for: none if the variable has nothing to do with the
configuration, and an error if a part of the path is empty. -/
def path? (name : String) : Option (Except Unit (List String)) :=
  (after? nameStart.toList name.toList).map fun rest =>
    let parts := (partsFrom [] rest).map fun part => String.ofList (lower part)
    if parts.contains "" then .error () else .ok parts

/-- A configuration with variables applied up to the first whose number cannot be read, and the
names of those whose path has an empty part. -/
def applyAll (config : Mapping Linked) :
    Table String → Except NumeralError (Mapping Linked) × List String
  | [] => (.ok config, [])
  | (name, text) :: rest =>
    match path? name with
    | none => applyAll config rest
    | some (.error _) =>
      let (config, malformed) := applyAll config rest
      (config, name :: malformed)
    | some (.ok path) =>
      match value text with
      | .error e => (.error e, [])
      | .ok v => applyAll (Linked.setPath config (.ofValue v) path) rest

/-- A configuration with the variables of an environment applied in the order of their names, and
the names of those whose path has an empty part. -/
def applied (config : Mapping Linked) (environment : Table String) :
    Except NumeralError (Mapping Linked) × List String :=
  applyAll config (environment.mergeSort fun a b => decide (a.1 ≤ b.1))

end Transclude.Variable
