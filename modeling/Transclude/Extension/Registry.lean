import Transclude.Directive.Basic
import Transclude.Include.AttrList
import Transclude.Reduction.Result

/-!
# Extensions

A caller can supply the lines of includes, change a document before it is reduced, and look at the
result. Hooks are functions: what they answer depends on nothing but what they are given.

## Main definitions

* `IncludeProcessor` : a hook that supplies the lines of includes.
* `Registry`         : the hooks of a run.
* `Registry.claim`   : the processors that want a target.
-/

namespace Transclude

/-- An include as a processor sees it: the target and the attribute list after substitution, the
directive and its origin, and the attributes of the document at that point. -/
structure IncludeRequest where
  target : String
  attributes : Table String
  origin : Origin
  directive : Include
  scope : Table String
  deriving DecidableEq, Repr

/-- Whether the include says that its target may be missing. -/
def IncludeRequest.optional (r : IncludeRequest) : Bool :=
  (AttrList.options r.attributes).contains "optional"

/-- A failure inside a hook, in the words of the hook. -/
structure HookFailure where
  message : String
  deriving DecidableEq, Repr

/-- A hook that supplies the lines of includes: the targets it wants, and the lines for a request,
or none to decline it. -/
structure IncludeProcessor where
  name : String
  handles : String → Bool
  process : IncludeRequest → Except HookFailure (Option (List String))

/-- A hook that changes the lines of a document before it is reduced, or leaves them as they are. -/
abbrev Preprocessor := List String → Option (List String)

/-- A hook that is shown the result of a reduction and may change it. -/
abbrev Postprocessor := Result → Result

/-- The hooks of a run, each kind in order of registration. -/
structure Registry where
  includeProcessors : List IncludeProcessor := []
  preprocessors : List Preprocessor := []
  postprocessors : List Postprocessor := []

namespace Registry

/-- The registry with one more include processor. -/
def addProcessor (r : Registry) (processor : IncludeProcessor) : Registry :=
  { r with includeProcessors := r.includeProcessors ++ [processor] }

/-- The registry with one more preprocessor. -/
def addPreprocessor (r : Registry) (hook : Preprocessor) : Registry :=
  { r with preprocessors := r.preprocessors ++ [hook] }

/-- The registry with one more postprocessor. -/
def addPostprocessor (r : Registry) (hook : Postprocessor) : Registry :=
  { r with postprocessors := r.postprocessors ++ [hook] }

/-- Whether there is no hook. -/
def isEmpty (r : Registry) : Bool :=
  r.includeProcessors.isEmpty && r.preprocessors.isEmpty && r.postprocessors.isEmpty

/-- The processors that want a target, in order of registration. -/
def claim (r : Registry) (target : String) : List IncludeProcessor :=
  r.includeProcessors.filter fun p => p.handles target

/-- The lines of a document after all preprocessors in turn. -/
def preprocess (r : Registry) (texts : List String) : List String :=
  r.preprocessors.foldl (fun texts hook => (hook texts).getD texts) texts

/-- The result after each of the postprocessors in turn. -/
def postprocess (r : Registry) (result : Result) : List Result :=
  go r.postprocessors result
where
  /-- The result after each of the given hooks in turn. -/
  go : List Postprocessor → Result → List Result
    | [], _ => []
    | hook :: rest, result => hook result :: go rest (hook result)

end Registry

end Transclude
