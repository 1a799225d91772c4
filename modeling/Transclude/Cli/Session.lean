import Transclude.Cli.Report
import Transclude.Configuration.Load
import Transclude.Extension.Loader
import Transclude.Log.Sink
import Transclude.Reduction.Document

/-!
# Sessions

A run of the program takes what it needs to know from its surroundings and leaves output, error
messages and a log behind, even when it ends early.

## Main definitions

* `Surroundings` : what a run can look at.
* `Session`      : what a run has left behind so far.
* `Run`          : a part of a run.
-/

namespace Transclude.Cli

/-- What a run can look at: the files, the current directory, the variables of the environment,
standard input, the extensions, and the names of characters. -/
structure Surroundings where
  files : FileTree
  cwd : String
  environment : Table String := []
  input : List UInt8 := []
  loader : Loader := .empty
  names : CharacterNames := .unknown

/-- What a run has left behind so far, and the paths that it looked at. -/
structure Session where
  output : Output
  errors : String := ""
  log : Log := {}
  consulted : List String := []

/-- What can go wrong in a run. -/
inductive Problem
  | configuration (e : ConfigurationError)
  | log (e : LogError)
  | extension (f : Fault)
  /-- The name of an extension is relative to that of another module. -/
  | relativeName (name : String)
  /-- The file of an extension cannot be looked for. -/
  | file (e : FileError)
  | hook (e : HookFailure)
  | options (e : OptionsError)
  | reduction (e : Failure)
  | output (e : OutputError)

namespace Problem

/-- The problem in words. -/
def message : Problem → String
  | .configuration e => e.message
  | .log e => e.message
  | .extension f => f.message
  | .relativeName name =>
    s!"the 'package' argument is required to perform a relative import for {Text.quoted name}"
  | .file e => e.message
  | .hook e => e.message
  | .options e => e.message
  | .reduction e => e.message
  | .output e => e.message

/-- The fault that is reported with details. -/
def fault? : Problem → Option Fault
  | .configuration (.fault f) => some f
  | .extension f => some f
  | _ => none

/-- Whether the problem is one of the file system. -/
def isFileProblem : Problem → Bool
  | .file e | .configuration (.file e) | .reduction (.file e) => e.problem.isSystemError
  | .output e => e.isFileProblem
  | _ => false

end Problem

/-- Why a run ends before its command is carried out. -/
inductive Halt
  | problem (p : Problem)
  | interrupted
  | ended (status : Nat)

/-- A part of a run. -/
abbrev Run := ExceptT Halt (StateM Session)

namespace Run

/-- A part that may fail. -/
def ofExcept {α : Type} (r : Except Problem α) : Run α :=
  match r with
  | .ok a => pure a
  | .error p => throw (.problem p)

/-- The verdict of a part, as a part that does not end the run. -/
def verdict {α : Type} (r : Run α) : Run (Except Halt α) := ExceptT.lift r.run

/-- Texts are added to the output and to the error messages. -/
def say (shown : Shown) : Run Unit :=
  modify fun s =>
    { s with
      output := { s.output with standard := s.output.standard ++ shown.standard }
      errors := s.errors ++ shown.errors }

/-- The paths that are looked at are kept. -/
def consult (paths : List String) : Run Unit :=
  modify fun s => { s with consulted := s.consulted ++ paths }

/-- What happened is sent to the log. -/
def note (journal : Journal) : Run Unit := do
  consult journal.consulted
  modify fun s => { s with errors := s.errors ++ s.log.written (journal.records .debug) }

/-- The log is set up to write to the error messages. -/
def setUpLog (level : Nat) (format : String) : Run Unit := do
  let (problem, log) := (← get).log.configure "errors" level format
  modify fun s => { s with log := log }
  match problem with
  | some e => throw (.problem (.log e))
  | none => pure ()

/-- The text is written to the target with a given name. -/
def write (here : Surroundings) (name text : String) : Run (Except OutputError (Option String)) := do
  let target := Target.ofName name
  match target with
  | .file path => consult [path]
  | _ => pure ()
  let s ← get
  let (outcome, output) := target.write here.cwd .surroundings text s.output
  set { s with output := output }
  pure outcome

end Run

end Transclude.Cli
