import Transclude.Text.Blank
import Transclude.Text.LowerCase

/-!
# Severities

How bad a problem is. Severities are ordered, and a reduction fails from a chosen severity on.

## Main definitions

* `Severity.rank`    : the place of a severity in the order.
* `Severity.ofName?` : the severity of a name.
-/

namespace Transclude

/-- How bad a problem is. -/
inductive Severity
  | debug
  | info
  | warning
  | error
  | fatal
  deriving DecidableEq, Repr

namespace Severity

/-- The place of a severity in the order, which is also its level in a log. -/
def rank : Severity → Nat
  | .debug => 10
  | .info => 20
  | .warning => 30
  | .error => 40
  | .fatal => 50

/-- The name of a severity. -/
def label : Severity → String
  | .debug => "debug"
  | .info => "info"
  | .warning => "warning"
  | .error => "error"
  | .fatal => "fatal"

/-- The name of a severity in capitals. -/
def capitals : Severity → String
  | .debug => "DEBUG"
  | .info => "INFO"
  | .warning => "WARNING"
  | .error => "ERROR"
  | .fatal => "FATAL"

/-- All severities, the least first. -/
def all : List Severity := [.debug, .info, .warning, .error, .fatal]

/-- The letter that a dotless i is the small form of; every other character stands for itself. -/
def dotted (c : Char) : Char := if c.toNat = 0x131 then 'i' else c

/-- The severity of a name, without regard to case and blanks around it. Names are compared by their
capitals, so a dotless i counts as an i; the short names `warn` and `critical` are read as they
stand. -/
def ofName? (text : String) : Option Severity :=
  let name := Text.lower (Text.trim text.toList)
  if name = "warn".toList then some .warning
  else if name = "critical".toList then some .fatal
  else all.find? fun s => s.label.toList == name.map dotted

/-- Whether a severity is at least another one. -/
def reaches (s level : Severity) : Bool := decide (level.rank ≤ s.rank)

end Severity

end Transclude
