import Transclude.Diagnostic.Severity
import Transclude.Number.Reading
import Transclude.Path.Jail
import Transclude.Text.Encoding.Codec
import Transclude.Value.Display

/-!
# Options of a reduction

What a caller can choose about a reduction, by name. Options start from defaults, from other
options, or from the `reducer` section of a configuration.

## Main definitions

* `Choice`             : what a choice means, and the value that it was given by.
* `Options`            : the choices.
* `Options.ofTable`    : the defaults with some fields set.
* `Options.overridden` : options with some fields set.
* `Options.ofConfig`   : options from a configuration.
-/

namespace Transclude

/-- A choice: what it means, and the value that it was given by, which is how it is shown. -/
structure Choice (α : Type) where
  meaning : α
  given : Value
  deriving BEq

/-- A truth value chosen by a value: whether that counts as true. -/
def Choice.ofFlag (v : Value) : Choice Bool := ⟨v.truthy, v⟩

/-- A number chosen by itself. -/
def Choice.ofNat (n : Nat) : Choice Nat := ⟨n, .int n⟩

/-- The choices about a reduction. -/
structure Options where
  /-- The attributes that the caller sets: a table, or something that counts as false. -/
  attributes : Value := .map []
  /-- Whether conditionals and all their branches stay in the output. -/
  preserveConditionals : Choice Bool := .ofFlag (.bool false)
  safeMode : SafeMode := .free
  /-- The one directory outside of the jail from which safe mode lets includes read. -/
  includeRoot : Option String := none
  /-- The directory in which a document that is no file reads its includes. -/
  baseDir : Option String := none
  /-- The greatest number of includes inside each other. -/
  maxIncludeDepth : Choice Nat := .ofNat 64
  /-- Whether an include that yields no lines leaves a line that says so. -/
  unresolvedPlaceholder : Choice Bool := .ofFlag (.bool true)
  failureLevel : Severity := .error
  missingIncludeSeverity : Severity := .error
  jailViolationSeverity : Severity := .error
  /-- Diagnostics below this severity are not logged. -/
  logThreshold : Severity := .debug
  encoding : Choice EncodingChoice := ⟨.named "utf-8", .text "utf-8"⟩
  deriving BEq

/-- Why options are refused. -/
inductive OptionsError
  | unexpectedField (name : String)
  | unknownFields (names : List String)
  | safeMode (text : String)
  | severity (text : String)
  | notAPath (kind : String)
  | depthNotPositive (text : String)
  | depthNotComparable (kind : String)
  | depthNotAnInteger (e : NumeralError)
  | depthNotANumber (kind : String)
  | depthInfinite
  | depthUndefined
  | attributesNotATable (kind : String)
  | sectionNotATable (kind : String)
  | sectionHasNoEntries (kind : String)
  /-- An element of a list that is to be read as pairs has another length. -/
  | elementLength (index length : Nat)
  /-- An element of a list that is to be read as pairs has no parts. -/
  | elementWithoutParts (index : Nat)
  /-- A list or a table stands where a key is needed. -/
  | unhashable (kind : String)
  deriving DecidableEq, Repr

/-- The refusal in words. -/
def OptionsError.message : OptionsError → String
  | .unexpectedField name =>
    s!"ReductionOptions.__init__() got an unexpected keyword argument '{name}'"
  | .unknownFields names => "unknown reduction option(s): " ++ ", ".intercalate names
  | .safeMode text => s!"invalid safe mode: {text}"
  | .severity text => s!"invalid severity: {text}"
  | .notAPath kind => s!"expected str, bytes or os.PathLike object, not {kind}"
  | .depthNotPositive text => s!"max_include_depth must be positive: {text}"
  | .depthNotComparable kind =>
    s!"'<' not supported between instances of '{kind}' and 'int'"
  | .depthNotAnInteger e => e.message
  | .depthNotANumber kind =>
    s!"int() argument must be a string, a bytes-like object or a real number, not '{kind}'"
  | .depthInfinite => "cannot convert float infinity to integer"
  | .depthUndefined => "cannot convert float NaN to integer"
  | .attributesNotATable kind => s!"'{kind}' object has no attribute 'items'"
  | .sectionNotATable kind => s!"'{kind}' object is not iterable"
  | .sectionHasNoEntries kind => s!"'{kind}' object has no attribute 'get'"
  | .elementLength index length =>
    s!"dictionary update sequence element #{index} has length {length}; 2 is required"
  | .elementWithoutParts index =>
    s!"cannot convert dictionary update sequence element #{index} to a sequence"
  | .unhashable kind => s!"unhashable type: '{kind}'"

namespace Options

/-- The names of all fields. -/
def fieldNames : List String :=
  ["attributes", "preserve_conditionals", "safe_mode", "include_root", "base_dir",
    "max_include_depth", "unresolved_placeholder", "failure_level", "missing_include_severity",
    "jail_violation_severity", "log_threshold", "extensions", "evaluator_factory", "encoding"]

/-- A severity given by a value. -/
def severityOf (v : Value) : Except OptionsError Severity :=
  match Severity.ofName? v.asText with
  | some s => .ok s
  | none => .error (.severity v.asText)

/-- A safe mode given by a value. -/
def safeModeOf (v : Value) : Except OptionsError SafeMode :=
  match SafeMode.ofName? v.asText with
  | some m => .ok m
  | none => .error (.safeMode v.asText)

/-- A directory given by a value; null is none. -/
def directoryOf (v : Value) : Except OptionsError (Option String) :=
  match v with
  | .null => .ok none
  | .text s => .ok (some (Path.collapsed s))
  | v => .error (.notAPath v.kindName)

/-- The depth that is taken for infinity and for what is no number. A depth is declared to be an
integer, so neither is of the right type, and without any bound a document that includes itself
would have no result. -/
def boundlessDepth : Nat := 1000000000

/-- A positive depth given by a value. A fraction allows no further level. -/
def depthOf (v : Value) : Except OptionsError (Choice Nat) :=
  let positive (i : Int) : Except OptionsError (Choice Nat) :=
    if i < 1 then .error (.depthNotPositive v.asText) else .ok ⟨i.toNat, v⟩
  match v with
  | .int i => positive i
  | .bool b => positive (if b then 1 else 0)
  | .real (.infinite negative) => positive (if negative then 0 else boundlessDepth)
  | .real x => positive (x.truncate?.getD 0)
  | .nan => .ok ⟨boundlessDepth, v⟩
  | v => .error (.depthNotComparable v.kindName)

/-- The encoding given by a value. -/
def encodingOf (v : Value) : Choice EncodingChoice :=
  match v with
  | .text name => ⟨.named name, v⟩
  | .null => ⟨.surroundings, v⟩
  | _ => ⟨.notAName v.kindName, v⟩

/-- The entries of a table of attributes; what counts as false has none. -/
def attributeEntries (o : Options) : Except OptionsError Mapping :=
  match o.attributes with
  | .map entries => .ok entries
  | v => if v.truthy then .error (.attributesNotATable v.kindName) else .ok []

/-- The value of a field in a table of choices, or else the given one. -/
def field {α : Type} (choices : Mapping) (name : String) (read : Value → Except OptionsError α)
    (otherwise : α) : Except OptionsError α :=
  match Mapping.get? choices name with
  | some v => read v
  | none => .ok otherwise

/-- The options with some fields set. Fields are checked in a fixed order, so of two faults the
same one is always reported. -/
def setAll (o : Options) (choices : Mapping) : Except OptionsError Options := do
  let safeMode ← field choices "safe_mode" safeModeOf o.safeMode
  let failureLevel ← field choices "failure_level" severityOf o.failureLevel
  let missing ← field choices "missing_include_severity" severityOf o.missingIncludeSeverity
  let violation ← field choices "jail_violation_severity" severityOf o.jailViolationSeverity
  let logThreshold ← field choices "log_threshold" severityOf o.logThreshold
  let includeRoot ← field choices "include_root" directoryOf o.includeRoot
  let baseDir ← field choices "base_dir" directoryOf o.baseDir
  let depth ← field choices "max_include_depth" depthOf o.maxIncludeDepth
  let flag (name : String) (otherwise : Choice Bool) : Choice Bool :=
    ((Mapping.get? choices name).map Choice.ofFlag).getD otherwise
  .ok
    { attributes := (Mapping.get? choices "attributes").getD o.attributes
      preserveConditionals := flag "preserve_conditionals" o.preserveConditionals
      safeMode := safeMode
      includeRoot := includeRoot
      baseDir := baseDir
      maxIncludeDepth := depth
      unresolvedPlaceholder := flag "unresolved_placeholder" o.unresolvedPlaceholder
      failureLevel := failureLevel
      missingIncludeSeverity := missing
      jailViolationSeverity := violation
      logThreshold := logThreshold
      encoding := ((Mapping.get? choices "encoding").map encodingOf).getD o.encoding }

/-- The names that are chosen. -/
def names (choices : Mapping) : List String := (Mapping.keys choices).map Scalar.asText

/-- The default options with some fields set. -/
def ofTable (choices : Mapping) : Except OptionsError Options :=
  match (names choices).find? fun name => !fieldNames.contains name with
  | some name => .error (.unexpectedField name)
  | none => setAll {} choices

/-- The options with some fields set. -/
def overridden (o : Options) (choices : Mapping) : Except OptionsError Options :=
  match (names choices).filter fun name => !fieldNames.contains name with
  | [] => o.setAll choices
  | names => .error (.unknownFields (names.mergeSort fun a b => decide (a ≤ b)))

/-- A section of a configuration, which may be absent or empty. -/
def sectionOf (config : Mapping) (name : String) : Value :=
  match Mapping.get? config name with
  | some v => if v.truthy then v else .map []
  | none => .map []

/-- The parts of a value: the items of a list, the keys of a table, the characters of a text. -/
def partsOf? : Value → Option (List Value)
  | .list items => some items
  | .map entries => some ((Mapping.keys entries).map .scalar)
  | .text s => some (s.toList.map fun c => .text (String.singleton c))
  | _ => none

/-- The key that a value is; what has parts is none. -/
def keyOf? : Value → Except OptionsError Scalar
  | .scalar s => .ok s
  | v => .error (.unhashable v.kindName)

/-- The pairs that the elements of a list are, counting them from `index` on. -/
def pairsFrom (index : Nat) : List Value → Except OptionsError (List (Scalar × Value))
  | [] => .ok []
  | v :: rest =>
    match partsOf? v with
    | some [key, v] => do
      let key ← keyOf? key
      let pairs ← pairsFrom (index + 1) rest
      pure ((key, v) :: pairs)
    | some parts => .error (.elementLength index parts.length)
    | none => .error (.elementWithoutParts index)

/-- The entries of a section: a table, or its pairs. -/
def entriesOf (v : Value) : Except OptionsError Mapping :=
  match v, partsOf? v with
  | .map entries, _ => .ok entries
  | _, some parts => (pairsFrom 0 parts).map Mapping.ofList
  | v, none => .error (.sectionNotATable v.kindName)

/-- The depth given by a configuration, which may be the text of an integer. -/
def configDepth (v : Value) : Except OptionsError Value :=
  match v with
  | .int i => .ok (.int i)
  | .bool b => .ok (.int (if b then 1 else 0))
  | .real (.infinite _) => .error .depthInfinite
  | .nan => .error .depthUndefined
  | .real x => .ok (.int (x.truncate?.getD 0))
  | .text s => ((Number.wholeInt s).map .int).mapError .depthNotAnInteger
  | v => .error (.depthNotANumber v.kindName)

/-- The options of the `reducer` section of a configuration, with some fields set that win over it
unless they are null. Attributes are added to those of the configuration. -/
def ofConfig (config choices : Mapping) : Except OptionsError Options := do
  let reducer ← entriesOf (sectionOf config "reducer")
  let attributes ← entriesOf (sectionOf reducer "attributes")
  let depth ← configDepth ((Mapping.get? reducer "max_include_depth").getD (.int 64))
  let severities ← match sectionOf reducer "severity" with
    | .map entries => .ok entries
    | v => .error (.sectionHasNoEntries v.kindName)
  let added ← entriesOf (sectionOf choices "attributes")
  let copied (name : String) (source : Mapping) (key : String) : Mapping :=
    match Mapping.get? source key with
    | some v => [(.text name, v)]
    | none => []
  let flag (name : String) : Mapping :=
    (copied name reducer name).map fun (name, v) => (name, .bool v.truthy)
  let configured : List Mapping :=
    [[("attributes", .map (Mapping.insertAll attributes added))], flag "preserve_conditionals",
      copied "safe_mode" reducer "safe_mode", copied "include_root" reducer "include_root",
      [("max_include_depth", depth)], flag "unresolved_placeholder",
      copied "failure_level" reducer "failure_level",
      copied "missing_include_severity" severities "missing_include",
      copied "jail_violation_severity" severities "jail_violation"]
  let overriding := choices.filter fun (name, v) => name != .text "attributes" && v != .null
  ofTable (Mapping.insertAll configured.flatten overriding)

end Options

end Transclude
