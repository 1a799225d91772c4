import Transclude.Diagnostic.Basic

/-!
# The journal of a run

What happens during a run besides its result, in order: the diagnostics, remarks for the log, and
the paths at which the file system is consulted.

## Main definitions

* `Event`               : something that happens during a run.
* `Journal.diagnostics` : the diagnostics of a journal.
* `Journal.records`     : what a journal sends to the log.
* `Journal.consulted`   : the paths that a run looked at.
-/

namespace Transclude

/-- A message for the log: its level, the name of the part that sends it, and the text. -/
structure LogRecord where
  level : Nat
  channel : String
  message : String
  deriving DecidableEq, Repr

/-- The channels of the log. -/
inductive Channel
  | diagnostics
  | reduction
  | includes
  | extensions
  | documents
  | configuration
  deriving DecidableEq, Repr

/-- The name of a channel. -/
def Channel.name : Channel → String
  | .diagnostics => "docfold.reduction"
  | .reduction => "docfold.core.reduction.orchestrator"
  | .includes => "docfold.core.reduction.includes"
  | .extensions => "docfold.core.reduction.extensions"
  | .documents => "docfold.core.reduction.api"
  | .configuration => "docfold.core.config.manager"

/-- Something that happens during a run. -/
inductive Event
  | found (d : Diagnostic)
  /-- A remark for the log. -/
  | noted (record : LogRecord)
  /-- The file system is asked what is at a path. -/
  | consulted (path : String)
  deriving DecidableEq, Repr

namespace Event

/-- A remark at the lowest level. -/
def remark (channel : Channel) (message : String) : Event :=
  .noted ⟨Severity.debug.rank, channel.name, message⟩

/-- The diagnostic of an event. -/
def diagnostic? : Event → Option Diagnostic
  | .found d => some d
  | _ => none

/-- The path of an event. -/
def path? : Event → Option String
  | .consulted path => some path
  | _ => none

/-- What an event sends to the log; diagnostics below the threshold send nothing. -/
def record? (threshold : Severity) : Event → Option LogRecord
  | .found d =>
    if d.severity.reaches threshold then
      some ⟨d.severity.rank, Channel.diagnostics.name, d.format⟩
    else none
  | .noted record => some record
  | .consulted _ => none

end Event

/-- The diagnostics of some events are those that are found in them. -/
theorem Event.mem_filterMap_diagnostic? {events : List Event} {d : Diagnostic} :
    d ∈ events.filterMap diagnostic? ↔ found d ∈ events := by
  rw [List.mem_filterMap]
  constructor
  · rintro ⟨e, he, hd⟩
    cases e with
    | found d' =>
      cases hd
      exact he
    | noted | consulted => cases hd
  · exact fun h => ⟨found d, h, rfl⟩

/-- What happens during a run, in order. -/
abbrev Journal := Array Event

namespace Journal

/-- The diagnostics, in order. -/
def diagnostics (j : Journal) : List Diagnostic := j.toList.filterMap Event.diagnostic?

/-- The messages for the log, in order. -/
def records (threshold : Severity) (j : Journal) : List LogRecord :=
  j.toList.filterMap (Event.record? threshold)

/-- The paths at which the file system is consulted, in order. -/
def consulted (j : Journal) : List String := j.toList.filterMap Event.path?

@[simp] theorem diagnostics_push (j : Journal) (e : Event) :
    diagnostics (j.push e) = j.diagnostics ++ e.diagnostic?.toList := by
  cases h : e.diagnostic? <;> simp [diagnostics, h]

@[simp] theorem consulted_push (j : Journal) (e : Event) :
    consulted (j.push e) = j.consulted ++ e.path?.toList := by
  cases h : e.path? <;> simp [consulted, h]

@[simp] theorem diagnostics_append (j k : Journal) :
    diagnostics (j ++ k) = j.diagnostics ++ diagnostics k := by
  simp [diagnostics]

@[simp] theorem consulted_append (j k : Journal) :
    consulted (j ++ k) = j.consulted ++ consulted k := by
  simp [consulted]

end Journal

end Transclude
