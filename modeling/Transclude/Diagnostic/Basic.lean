import Transclude.Diagnostic.Severity
import Transclude.Document.Line

/-!
# Diagnostics

A problem found in a document. Problems never stop a reduction: they are collected and judged at the
end against the severity from which the reduction fails.

## Main definitions

* `Diagnostic`             : a problem and where it was found.
* `Diagnostic.alwaysFatal` : whether it fails a reduction at every level.
* `Diagnostic.isFatal`     : whether it fails a reduction at a given level.
-/

namespace Transclude

/-- What a problem is about: the structure of the document, an include that yields no lines, a
condition that has no truth value, or none of these. -/
inductive Category
  | structural
  | resolution
  | evaluation
  | notice
  deriving DecidableEq, Repr

namespace Category

/-- The name of a category. -/
def label : Category → String
  | .structural => "structural"
  | .resolution => "resolution"
  | .evaluation => "evaluation"
  | .notice => "notice"

/-- The category of a name. -/
def ofLabel? (label : String) : Option Category :=
  [structural, resolution, evaluation, notice].find? fun c => c.label == label

end Category

/-- A problem found in a document. -/
structure Diagnostic where
  severity : Severity
  message : String
  origin : Origin
  category : Category := .notice
  deriving DecidableEq, Repr

namespace Diagnostic

/-- A problem of the structure of the document. -/
def structural (message : String) (origin : Origin) : Diagnostic :=
  ⟨.fatal, message, origin, .structural⟩

/-- Whether the problem fails a reduction at every level. -/
def alwaysFatal (d : Diagnostic) : Bool :=
  d.category == .structural || (d.category == .evaluation && d.severity == .fatal)

/-- Whether the problem fails a reduction that fails from the given severity on. -/
def isFatal (d : Diagnostic) (level : Severity) : Bool :=
  d.alwaysFatal || d.severity.reaches level

/-- The problem in words, with its place before it. -/
def format (d : Diagnostic) : String := s!"{d.origin.describe}: {d.message}"

end Diagnostic

end Transclude
