import Transclude.Attribute.Set
import Transclude.Number.Reading

/-!
# Operands of expressions

An operand in quotes is a text. Without quotes it is null, a truth value or a number, read from what
its text starts with. References in either are substituted first, those without a value dropped.

## Main definitions

* `Operand.ofText`  : the value of an operand.
* `Operand.holds`   : whether a comparison of two values is true.
-/

namespace Transclude

open Transclude.Text

/-- The value of an operand. -/
inductive Operand
  | null
  | bool (b : Bool)
  | int (i : Int)
  | real (x : Binary64)
  | text (s : String)
  deriving DecidableEq, Repr

/-- A comparison. -/
inductive Relation
  | eq
  | ne
  | lt
  | le
  | gt
  | ge
  deriving DecidableEq, Repr

/-- Whether a comparison is true of two values in the given order. -/
def Relation.admits : Relation → Ordering → Bool
  | .eq, o => o == .eq
  | .ne, o => o != .eq
  | .lt, o => o == .lt
  | .le, o => o != .gt
  | .gt, o => o == .gt
  | .ge, o => o != .lt

namespace Operand

/-- The text between the quotes of an operand that begins and ends with the same quote. -/
def unquoted? (s : List Char) : Option (List Char) :=
  match s with
  | q :: rest =>
    if (q == '"' || q == '\'') && rest.getLast? == some q then some rest.dropLast else none
  | [] => none

/-- The value of an operand without quotes, after substitution. -/
def plain (s : List Char) : Except NumeralError Operand :=
  if s.isEmpty then .ok .null
  else if s == "true".toList then .ok (.bool true)
  else if s == "false".toList then .ok (.bool false)
  else if allBlank s then .ok (.text " ")
  else if s.contains '.' then (Number.leadingReal s).map .real
  else (Number.leadingInt s).map .int

/-- The value of an operand, or why the number in it cannot be read. -/
def ofText (attributes : AttributeSet) (raw : String) : Except NumeralError Operand :=
  let s := trim raw.toList
  match unquoted? s with
  | some inner => .ok (.text (attributes.substitute (String.ofList inner) (some "drop")).text)
  | none => plain (attributes.substitute (String.ofList s) (some "drop")).text.toList

/-- The exact value of a number. -/
def number? : Operand → Option Extended
  | .int i => some (.ofInt i)
  | .real x => some (.ofBinary64 x)
  | _ => none

/-- The order of two truth values, texts or numbers; values of different kinds have none. Integers
and doubles are one kind, and texts are ordered by code points. -/
def order? (l r : Operand) : Option Ordering :=
  match l, r with
  | .bool a, .bool b => some (Ord.compare a b)
  | .text a, .text b => some (Ord.compare a b)
  | _, _ =>
    match l.number?, r.number? with
    | some a, some b => some (a.compare b)
    | _, _ => none

/-- Whether a comparison is true. Null equals null and has no order; values of different kinds only
differ. -/
def holds (relation : Relation) (l r : Operand) : Bool :=
  match l, r with
  | .null, .null => relation == .eq
  | _, _ =>
    match l.order? r with
    | some o => relation.admits o
    | none => relation == .ne

end Operand

end Transclude
