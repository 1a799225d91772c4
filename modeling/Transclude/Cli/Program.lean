import Transclude.Cli.Arguments
import Transclude.Cli.Assignment
import Transclude.Cli.Help
import Transclude.Cli.Session
import Transclude.Output.Structured

/-!
# The program

A command loads its configuration and its extensions, reduces the document, and writes the flattened
text or the source map.

## Main definitions

* `Program.reduction` : the result of the reduction that a command line asks for.
* `Program.command`   : the status with which a command ends.
* `Program.run`       : a whole run of the program.
-/

namespace Transclude.Cli.Program

/-- How a run of the program ends. -/
inductive Exit
  | status (code : Nat)
  /-- A problem is passed on to the surroundings. -/
  | raised (p : Problem)

/-- The status of a run that a signal ends. -/
def signalStatus (signal : Nat) : Nat := 128 + signal

/-- The status of a run that the user interrupts. -/
def interruptedStatus : Nat := 130

/-! ## Before the reduction -/

/-- The configuration of the current directory and of the file that is named. -/
def configuration (here : Surroundings) (choices : Choices) : Run (Mapping) := do
  let place : Configuration.Place := ⟨here.files, here.cwd, here.cwd, here.environment⟩
  let (config, journal) := Configuration.load place choices.configuration true
  Run.note journal
  Run.ofExcept (config.mapError .configuration)

/-- A text in a section of a configuration, unless it is empty. -/
def setting? (config : Mapping) (part name : String) : Option String :=
  match ((config.get? part).getD .null).get? name with
  | some (.text s) => if s = "" then none else some s
  | _ => none

/-- The log is set up as the command line and the configuration say. -/
def setUpLog (choices : Choices) (config : Mapping) : Run Unit := do
  let named := choices.logLevel.getD ((setting? config "logging" "level").getD "warning")
  let level ← if choices.quiet then pure Log.quiet
    else Run.ofExcept ((Log.levelOf named).mapError .log)
  Run.setUpLog level ((setting? config "logging" "format").getD LineFormat.standard)

/-- The hooks of the extensions that are asked for. -/
def extensions (here : Surroundings) (choices : Choices) : Run Registry := do
  let (loaded, journal) := here.loader.loadAll {} (extensionNames choices.extensions)
  Run.note journal
  match loaded with
  | .ok registry => pure registry
  | .error (name, .missing) => throw (.problem (.extension (.notLoaded name)))
  | .error (name, .relative) => throw (.problem (.relativeName name))
  | .error (_, .file e) => throw (.problem (.file e))
  | .error (_, .failed e) => throw (.problem (.hook e))
  | .error (_, .interrupted) => throw .interrupted
  | .error (_, .ended status) => throw (.ended status)

/-- A text that may be absent, as a value. -/
def optional (s : Option String) : Value := (s.map Value.text).getD .null

/-- What the command line chooses about the reduction. -/
def overriding (choices : Choices) (config : Mapping) : Mapping :=
  let attributes := (Assignment.table choices.attributes).map fun (name, value) =>
    (name, optional value)
  let level := choices.failureLevel.getD ((setting? config "cli" "failure_level").getD "fatal")
  [("attributes", .map attributes), ("safe_mode", optional choices.safeMode),
    ("include_root", optional choices.includeRoot),
    ("preserve_conditionals", if choices.preserveConditionals then .bool true else .null),
    ("failure_level", .text level)]

/-- The name under which standard input is known. -/
def standardInput : String := "<stdin>"

/-- The source that a document names: a hyphen is standard input, where every line break counts as
a line feed. -/
def source (here : Surroundings) (document : String) : Except Problem Source :=
  if document = "-" then
    match Encoding.readFile here.names .surroundings here.input with
    | .ok text =>
      .ok (.stream (.text (String.ofList (Text.unifiedBreaks text.toList))) (some standardInput))
    | .error e => .error (.reduction (.encoding e))
  else .ok (.file document)

/-! ## Commands -/

/-- The result of the reduction that a command line asks for. -/
def reduction (here : Surroundings) (i : Invocation) : Run Result := do
  let config ← configuration here i.choices
  setUpLog i.choices config
  let registry ← extensions here i.choices
  let options ← Run.ofExcept
    ((Options.ofConfig config (overriding i.choices config)).mapError .options)
  let source ← Run.ofExcept (source here i.document)
  Run.consult source.consulted
  let job : Job :=
    { source, options, registry, names := here.names, refuseFatal := false }
  let outcome := job.run here.cwd (← get).output
  Run.note outcome.journal
  Run.ofExcept (outcome.verdict.mapError .reduction)

/-- The diagnostics of a result as a value. -/
def diagnostics (r : Result) : Value := .list (r.diagnostics.map Diagnostic.toValue)

/-- The name of the target of a command; without one it is standard output. -/
def targetName (choices : Choices) : String :=
  match choices.output with
  | none | some "" => "-"
  | some name => name

/-- The end of a command whose output cannot be written. -/
def unwritten (reporter : Reporter) (e : OutputError) : Run Nat :=
  if e.isFileProblem then do
    Run.say (reporter.failure e.message "output_error" none)
    pure 1
  else throw (.problem (.output e))

/-- The flattened text is written unless the result is fatal. -/
def writeText (here : Surroundings) (choices : Choices) (reporter : Reporter) (r : Result) :
    Run Nat := do
  match r.firstFatal? with
  | some d =>
    Run.say (reporter.failure d.message "reduction_failed" none)
    pure 1
  | none =>
    let name := targetName choices
    if choices.json && name == "-" then
      Run.say (reporter.success [("text", .text r.text), ("diagnostics", diagnostics r)])
      pure 0
    else
      match ← Run.write here name r.text with
      | .error e => unwritten reporter e
      | .ok path =>
        if choices.json then
          Run.say (reporter.success [("output", .text (path.getD name)),
            ("lines", .int r.lines.length), ("diagnostics", diagnostics r)])
        pure 0

/-- The source map is written, even that of a fatal result. -/
def writeMap (here : Surroundings) (choices : Choices) (reporter : Reporter) (r : Result) :
    Run Nat := do
  let structured := if choices.yaml then Structure.yaml else .indented
  match ← Run.write here (targetName choices) (structured.render r.toValue) with
  | .error e => unwritten reporter e
  | .ok _ => pure (if r.ok then 0 else 1)

/-- The end of a command that has no result. -/
def withoutResult (reporter : Reporter) (h : Halt) : Run Nat :=
  match h with
  | .problem p =>
    match p.fault? with
    | some f => do
      Run.say (reporter.fault f)
      pure 1
    | none =>
      if p.isFileProblem then do
        Run.say (reporter.failure s!"cannot read input: {p.message}" "input_error" none)
        pure 1
      else throw h
  | _ => throw h

/-- The status with which a command ends. -/
def command (here : Surroundings) (i : Invocation) : Run Nat := do
  let reporter : Reporter := { json := i.choices.json }
  match ← (reduction here i).verdict with
  | .error h => withoutResult reporter h
  | .ok r =>
    match i.command with
    | .reduce => writeText here i.choices reporter r
    | .sourceMap => writeMap here i.choices reporter r

/-! ## Runs -/

/-- What is shown when a command is not carried out, and the status. -/
def stopped : Stop → Shown × Nat
  | .help none => ({ standard := Help.program }, 0)
  | .help (some c) => ({ standard := Help.command c }, 0)
  | .version => ({ standard := Help.version ++ "\n" }, 0)
  | .refused c e =>
    let usage := match c with
      | some c => Help.usage c
      | none => Help.programUsage
    ({ Shown.message e.message with standard := usage ++ "\n" }, 1)

/-- What is said about a problem that no report covers. -/
def unexpected (p : Problem) : Shown :=
  { errors := s!"docfold: FAILED: {p.message}\n  Use --trace to show backtrace\n" }

/-- The end of a run whose command comes to the given verdict. -/
def ending (trace : Bool) : Except Halt Nat → Exit × Shown
  | .ok status => (.status status, {})
  | .error (.ended status) => (.status status, {})
  | .error .interrupted => (.status interruptedStatus, { errors := "\n" })
  | .error (.problem p) => if trace then (.raised p, {}) else (.status 1, unexpected p)

/-- A whole run of the program: how it ends and what it leaves behind. -/
def run (here : Surroundings) (arguments : List String) : Exit × Session :=
  let start : Session := { output := { files := here.files } }
  let (exit, shown, session) := match Invocation.read arguments with
    | .error stop =>
      let (shown, status) := stopped stop
      (Exit.status status, shown, start)
    | .ok i =>
      let (verdict, session) := (command here i).run.run start
      let (exit, shown) := ending i.choices.trace verdict
      (exit, shown, session)
  (exit, { session with
    output := { session.output with standard := session.output.standard ++ shown.standard }
    errors := session.errors ++ shown.errors })

end Transclude.Cli.Program
