import Transclude.Output.Target
import Transclude.Value.Json.Printer
import Transclude.Value.Yaml.Printer

/-!
# Structured output

Values that are written to a target as text, in JSON or in YAML.

## Main definitions

* `Structure`           : how a value becomes text.
* `Target.writeValue`   : the output after a value is written to a target.
-/

namespace Transclude

/-- How a value becomes text. -/
inductive Structure
  | json (style : JsonStyle)
  | yaml

namespace Structure

/-- An indentation by the given number of blanks. -/
def blanks (width : Nat) : String := "".pushn ' ' width

/-- The JSON of source maps: levels are indented by two blanks. -/
def indented : Structure := .json { indent := some (blanks 2) }

/-- A value as text, which ends with a line feed. -/
def render (s : Structure) (v : Value) : String :=
  match s with
  | .json style => v.toJson style ++ "\n"
  | .yaml => v.toYaml

end Structure

/-- The outcome of writing a value to a target, and the output after it. -/
def Target.writeValue (t : Target) (cwd : String) (encoding : EncodingChoice) (s : Structure)
    (v : Value) (o : Output) : Except OutputError (Option String) × Output :=
  t.write cwd encoding (s.render v) o

end Transclude
