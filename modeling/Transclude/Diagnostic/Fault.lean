import Transclude.Value.Basic

/-!
# Faults

Failures that are reported with details besides their message. A report names the kind of the fault
by a code.

## Main definitions

* `Fault`         : a failure, its message, and details.
* `Fault.toValue` : the report of a fault.
-/

namespace Transclude

/-- The kinds of faults. -/
inductive FaultKind
  | general
  | configuration
  | extension
  /-- A condition that cannot be evaluated, and whether the reduction can go on. -/
  | evaluation (recoverable : Bool)
  | reduction
  deriving DecidableEq, Repr

/-- The code of a kind. -/
def FaultKind.code : FaultKind → String
  | .general => "DocfoldError"
  | .configuration => "ConfigError"
  | .extension => "ExtensionLoadError"
  | .evaluation _ => "EvaluationError"
  | .reduction => "ReductionFailed"

/-- A failure, its message, and details. -/
structure Fault where
  kind : FaultKind
  message : String
  context : Mapping := []
  deriving BEq

namespace Fault

/-- The fault of an extension that cannot be loaded; the details name it. -/
def notLoaded (name : String) (context : Mapping := []) : Fault :=
  ⟨.extension, s!"'{name}' could not be required", context.insert "name" (.text name)⟩

/-- The report of a fault. -/
def toValue (f : Fault) : Value :=
  .map [("message", .text f.message), ("code", .text f.kind.code), ("context", .map f.context)]

end Fault

end Transclude
