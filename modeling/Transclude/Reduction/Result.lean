import Transclude.Diagnostic.Basic
import Transclude.Document.Buffer
import Transclude.Table
import Transclude.Value.Basic

/-!
# Results of reductions

A result carries the flattened lines, each with its origin, the diagnostics, and the attributes at
the end of the document. The lines are there even when the reduction failed.

## Main definitions

* `Result.firstFatal?` : the first diagnostic that fails the reduction.
* `Result.text`        : the flattened text.
* `Result.originOf`    : where an output line was read.
* `Result.toValue`     : the source map.
-/

namespace Transclude

/-- The outcome of a reduction of the file `file`. -/
structure Result where
  file : String
  lines : List Line := []
  diagnostics : List Diagnostic := []
  failureLevel : Severity := .error
  attributes : Table String := []
  deriving DecidableEq, Repr

/-- A number that no output line has, and the number of lines. -/
structure NoSuchLine where
  number : Int
  count : Nat
  deriving DecidableEq, Repr

/-- The refusal in words. -/
def NoSuchLine.message (e : NoSuchLine) : String :=
  s!"output line {e.number} out of range (1..{e.count})"

/-- A place as a value. -/
def Place.toValue (p : Place) : Value := .map [("file", .text p.file), ("line", .int p.line)]

/-- An origin as a value. -/
def Origin.toValue (o : Origin) : Value :=
  .map [("file", .text o.file), ("line", .int o.line),
    ("include_stack", .list (o.chain.map Place.toValue))]

/-- A diagnostic as a value. -/
def Diagnostic.toValue (d : Diagnostic) : Value :=
  .map [("severity", .text d.severity.label), ("category", .text d.category.label),
    ("message", .text d.message), ("location", d.origin.toValue)]

namespace Result

/-- The flattened text, every line ended by a line feed. -/
def text (r : Result) : String := Buffer.text ⟨r.lines⟩

/-- The origin of the output line with the given number, counted from one. -/
def originOf (r : Result) (number : Int) : Except NoSuchLine Origin :=
  if 1 ≤ number then
    match r.lines[(number - 1).toNat]? with
    | some line => .ok line.origin
    | none => .error ⟨number, r.lines.length⟩
  else .error ⟨number, r.lines.length⟩

/-- The first diagnostic that fails the reduction. -/
def firstFatal? (r : Result) : Option Diagnostic :=
  r.diagnostics.find? (·.isFatal r.failureLevel)

/-- Whether no diagnostic fails the reduction. -/
def ok (r : Result) : Bool := r.firstFatal?.isNone

/-- A numbered output line as a value. -/
def lineValue (number : Nat) (line : Line) : Value :=
  .map [("number", .int number), ("text", .text line.text), ("origin", line.origin.toValue)]

/-- The source map: the verdict, every output line with its origin, and the diagnostics. -/
def toValue (r : Result) : Value :=
  .map [("file", .text r.file), ("ok", .bool r.ok),
    ("lines", .list (r.lines.zipIdx.map fun (line, i) => lineValue (i + 1) line)),
    ("diagnostics", .list (r.diagnostics.map Diagnostic.toValue))]

end Result

end Transclude
