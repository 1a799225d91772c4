import Transclude.Log.LineFormat
import Transclude.Text.Blank
import Transclude.Text.LowerCase

/-!
# The log

Messages from a chosen level on are written to a stream, a line each. Before a stream is chosen,
warnings and worse are shown as they are.

## Main definitions

* `Log`           : the state of the log.
* `Log.configure` : the log with a stream, a level and a format.
* `Log.line?`     : the line that the log writes for a record.
-/

namespace Transclude

/-- Where log lines go, from which level on, and in which format. -/
structure LogSink where
  stream : String
  level : Nat
  format : LineFormat
  deriving DecidableEq, Repr

/-- The state of the log: its level, where zero stands for that of warnings, whether records are
passed on to the surroundings, and where lines go. -/
structure Log where
  level : Nat := 0
  passesOn : Bool := true
  sink : Option LogSink := none
  deriving DecidableEq, Repr

/-- Why a log cannot be set up. -/
inductive LogError
  | level (name : String)
  | format (text : String)
  deriving DecidableEq, Repr

/-- The reason in words. -/
def LogError.message : LogError → String
  | .level name => s!"invalid log level: {name}"
  | .format text => s!"Invalid format '{text}' for '%' style"

namespace Log

/-- A level that no record reaches. -/
def quiet : Nat := 60

/-- The level of a name, without regard to case and to blanks around it. -/
def levelOf (name : String) : Except LogError Nat :=
  match String.ofList (Text.lower (Text.trim name.toList)) with
  | "debug" => .ok 10
  | "info" => .ok 20
  | "warn" => .ok 30
  | "warning" => .ok 30
  | "error" => .ok 40
  | "fatal" => .ok 50
  | "critical" => .ok 50
  | _ => .error (.level name)

/-- The log with a stream, a level and a format. If no format is described, what is left is a log
without a stream. -/
def configure (l : Log) (stream : String) (level : Nat) (format : String) :
    Option LogError × Log :=
  match LineFormat.ofText? format with
  | some f => (none, { level := level, passesOn := false, sink := some ⟨stream, level, f⟩ })
  | none => (some (.format format), { l with sink := none })

/-- The name of the channel that contains all channels of this log. -/
def channel : String := "docfold"

/-- Whether a channel is one of this log. -/
def owns (name : String) : Bool :=
  name == channel || (channel ++ ".").toList.isPrefixOf name.toList

/-- The level from which on the log takes records. -/
def threshold (l : Log) : Nat := if l.level = 0 then Severity.warning.rank else l.level

/-- The line that the log writes for a record, without the line feed. A record that the format
cannot show leaves none. -/
def line? (l : Log) (r : LogRecord) : Option String :=
  if !owns r.channel || decide (r.level < l.threshold) then none
  else
    match l.sink with
    | some sink => if sink.level ≤ r.level then sink.format.line? r else none
    | none => if Severity.warning.rank ≤ r.level then some r.message else none

/-- What the log writes for records in turn, every line ended by a line feed. -/
def written (l : Log) (records : List LogRecord) : String :=
  String.join ((records.filterMap l.line?).map (· ++ "\n"))

end Log

end Transclude
