import Transclude.Condition.Expression
import Transclude.Directive.Scan

/-!
# Conditional blocks

Whether an opening conditional keeps its content, and the stack of the blocks that are open.

## Main definitions

* `Evaluator`      : how attribute questions are answered.
* `Opening.decide` : whether a conditional keeps its content.
* `Frame.close`    : the open blocks after an `endif`.
-/

namespace Transclude

/-- How conditionals are answered: whether an attribute is defined, and whether an expression is
true, both for the attributes reached so far. -/
structure Evaluator where
  isDefined : AttributeSet → String → Bool
  evaluate : AttributeSet → Option String → Except EvaluationError Bool

/-- The evaluator of attributes and expressions as this library defines them. -/
def Evaluator.standard : Evaluator :=
  { isDefined := AttributeSet.contains, evaluate := Expression.evaluate }

/-- Whether a conditional on attributes keeps its content. -/
def Presence.decide (evaluator : Evaluator) (attributes : AttributeSet) (d : Presence) :
    Except EvaluationError Bool :=
  if d.target = "" then .error (.missingTarget d.raw)
  else
    let defined := match d.mode with
      | .all => d.names.all (evaluator.isDefined attributes)
      | _ => d.names.any (evaluator.isDefined attributes)
    .ok (defined != d.negated)

/-- Whether a conditional on an expression keeps its content. -/
def Comparison.decide (evaluator : Evaluator) (attributes : AttributeSet) (d : Comparison) :
    Except EvaluationError Bool :=
  if d.target ≠ "" then .error (.targetNotPermitted d.raw)
  else (evaluator.evaluate attributes d.expression).mapError (·.atDirective d.raw)

/-- Whether a conditional keeps its content. -/
def Opening.decide (evaluator : Evaluator) (attributes : AttributeSet) :
    Opening → Except EvaluationError Bool
  | .presence d => d.decide evaluator attributes
  | .comparison d => d.decide evaluator attributes

/-- An open block: the line that opened it, its target, whether attribute entries in it count, and
the origin of that line. -/
structure Frame where
  raw : String
  target : String
  active : Bool
  origin : Origin
  deriving DecidableEq, Repr

namespace Frame

/-- The open blocks, innermost first, after an `endif`, or the problem with it. An `endif` without a
target ends the innermost block; with one, only if the block has that target. -/
def close (frames : List Frame) (d : Closing) : Except String (List Frame) :=
  match d.text, frames with
  | some _, _ => .error (textNotPermitted d.raw)
  | none, [] => .error s!"unmatched preprocessor directive: endif::{d.target}[]"
  | none, top :: rest =>
    if d.target ≠ "" ∧ d.target ≠ top.target then .error (mismatched d.target top.target)
    else .ok rest

/-- An `endif` without a text ends the innermost block, if it has its target or none. -/
theorem close_of_ends {f : Frame} {frames : List Frame} {d : Closing} (hbare : d.text = none)
    (hnamed : d.target = "" ∨ d.target = f.target) : close (f :: frames) d = .ok frames := by
  have hsame : ¬ (d.target ≠ "" ∧ d.target ≠ f.target) :=
    fun hother => hnamed.elim hother.1 hother.2
  simp only [close, hbare]
  rw [if_neg hsame]

/-- The blocks that are open after an `endif` were open before it. -/
theorem suffix_of_close {frames frames' : List Frame} {d : Closing}
    (h : close frames d = .ok frames') : frames' <:+ frames := by
  unfold close at h
  split at h
  · cases h
  · cases h
  · split at h
    · cases h
    · cases h
      exact List.suffix_cons _ _

end Frame

end Transclude
