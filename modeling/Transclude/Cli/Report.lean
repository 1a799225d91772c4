import Transclude.Diagnostic.Fault
import Transclude.Value.Json.Printer

/-!
# Reports

What a command says about a run, in plain lines or as JSON: a success on standard output, a failure
among the error messages.

## Main definitions

* `Shown`             : what is said.
* `Reporter.success`  : the report of a success.
* `Reporter.failure`  : the report of a failure.
-/

namespace Transclude.Cli

/-- Text for standard output and for the error messages. -/
structure Shown where
  standard : String := ""
  errors : String := ""
  deriving DecidableEq, Repr

/-- A message of the program. -/
def Shown.message (text : String) : Shown := { errors := s!"docfold: {text}\n" }

/-- How reports are made: in plain lines or as JSON, and the indentation of the latter. -/
structure Reporter where
  json : Bool := false
  indent : Option String := some "  "

namespace Reporter

/-- A value on lines of its own. -/
def render (r : Reporter) (v : Value) : String :=
  v.toJson { indent := r.indent, asciiOnly := true } ++ "\n"

/-- The report of a success. In plain lines nothing is said but the given message. -/
def success (r : Reporter) (data : Mapping) (message : String := "")
    (status : String := "success") : Shown :=
  if r.json then
    { standard := r.render (.map (Mapping.insertAll [("status", .text status)] data)) }
  else if message = "" then {}
  else { errors := message ++ "\n" }

/-- The report of a failure with a message, a code, and perhaps details. -/
def failure (r : Reporter) (message code : String) (context : Option Mapping) : Shown :=
  if r.json then
    let details : Mapping := match context with
      | some entries => [("context", .map entries)]
      | none => []
    let report : Mapping := [("error", .text code), ("message", .text message)]
    { errors := r.render (.map (report ++ details)) }
  else .message message

/-- The report of a fault. -/
def fault (r : Reporter) (f : Fault) : Shown := r.failure f.message f.kind.code (some f.context)

end Reporter

end Transclude.Cli
