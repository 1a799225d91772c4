import Transclude.Condition.Operand

/-!
# Expressions of conditionals

An expression is two operands with a comparison between them. The left operand is the shortest
beginning that leaves a comparison and another operand.

## Main definitions

* `Expression.ofText?`  : the parts of an expression.
* `Expression.evaluate` : whether an expression is true.
-/

namespace Transclude

open Transclude.Text

/-- Why a condition has no truth value. -/
inductive EvaluationError
  | missingExpression
  | invalidExpression
  | missingTarget (raw : String)
  | targetNotPermitted (raw : String)
  /-- A problem that an evaluator reports in its own words. -/
  | reported (message : String) (recoverable : Bool)
  /-- A problem with the expression of a directive. -/
  | inDirective (problem : EvaluationError) (raw : String)
  /-- A number that cannot be read; a reduction does not go on after it. -/
  | numeral (problem : NumeralError)
  deriving DecidableEq, Repr

namespace EvaluationError

/-- The problem in words. -/
def message : EvaluationError → String
  | .missingExpression => "missing expression"
  | .invalidExpression => "invalid expression"
  | .missingTarget raw => s!"malformed preprocessor directive - missing target: {raw}"
  | .targetNotPermitted raw => s!"malformed preprocessor directive - target not permitted: {raw}"
  | .reported text _ => text
  | .inDirective problem raw =>
    let reason := problem.message
    s!"malformed preprocessor directive - {reason}: {raw}"
  | .numeral problem => problem.message

/-- The problem as one with the expression of a directive. A number that cannot be read is reported
by itself. -/
def atDirective (problem : EvaluationError) (raw : String) : EvaluationError :=
  match problem with
  | .numeral e => .numeral e
  | problem => .inDirective problem raw

/-- Whether the problem only makes the condition false, and does not fail the reduction. -/
def recoverable : EvaluationError → Bool
  | .reported _ r => r
  | .inDirective problem _ => problem.recoverable
  | _ => false

end EvaluationError

/-- A comparison of two operands, as they are written. -/
structure Expression where
  left : String
  relation : Relation
  right : String
  deriving DecidableEq, Repr

namespace Expression

/-- The right operand in what follows a comparison: not empty, and all on one line. -/
def rightOf? (s : List Char) : Option (List Char) :=
  let right := s.dropWhile (· == ' ')
  if right.isEmpty || right.contains '\n' then none else some right

/-- The comparison of two characters that a text starts with, and what follows it. -/
def wideRelation? : List Char → Option (Relation × List Char)
  | '=' :: '=' :: rest => some (.eq, rest)
  | '!' :: '=' :: rest => some (.ne, rest)
  | '<' :: '=' :: rest => some (.le, rest)
  | '>' :: '=' :: rest => some (.ge, rest)
  | _ => none

/-- The comparison of one character that a text starts with, and what follows it. -/
def narrowRelation? : List Char → Option (Relation × List Char)
  | '<' :: rest => some (.lt, rest)
  | '>' :: rest => some (.gt, rest)
  | _ => none

/-- The comparison that a text starts with, after spaces, and the operand that follows. -/
def tail? (s : List Char) : Option (Relation × List Char) :=
  let s := s.dropWhile (· == ' ')
  let complete (found : Option (Relation × List Char)) : Option (Relation × List Char) :=
    found.bind fun (relation, rest) => (rightOf? rest).map fun right => (relation, right)
  (complete (wideRelation? s)).or (complete (narrowRelation? s))

/-- The parts of an expression whose left operand starts with `left`, given in reverse. -/
def splitAfter? (left : List Char) : List Char → Option (List Char × Relation × List Char)
  | [] => none
  | c :: rest =>
    if c == '\n' then none
    else match tail? rest with
      | some (relation, right) => some ((c :: left).reverse, relation, right)
      | none => splitAfter? (c :: left) rest

/-- The parts of an expression, without blanks around it. -/
def ofText? (s : List Char) : Option Expression :=
  (splitAfter? [] (trim s)).map fun (left, relation, right) =>
    ⟨String.ofList left, relation, String.ofList right⟩

/-- Whether an expression is true. -/
def evaluate (attributes : AttributeSet) (text : Option String) : Except EvaluationError Bool :=
  match text with
  | none => .error .missingExpression
  | some s =>
    if allBlank s.toList then .error .missingExpression
    else match ofText? s.toList with
      | none => .error .invalidExpression
      | some e =>
        match Operand.ofText attributes e.left, Operand.ofText attributes e.right with
        | .ok left, .ok right => .ok (Operand.holds e.relation left right)
        | .error problem, _ | .ok _, .error problem => .error (.numeral problem)

end Expression

end Transclude
