import Transclude.Cli.Program
import Transclude.Proofs.FileContent
import Transclude.Proofs.FileTrees

/-!
# Output is written only on success

A text is written only if the verdict on the result is that nothing in it is fatal. Both the job of
a caller and the command of the program ask for the verdict first. What is written then is the text
as it is encoded, and nothing else is changed but the directories above a file. This is said of runs
without hooks, for a hook is free to write what it likes.

## Main definitions

* `FileTree.DeliveredAt` : whether bytes were delivered to a path.
* `Target.Delivered`     : whether a text was delivered to a target.
* `Job.result`           : the result of a job, before anything is done with it.
* `Cli.Run.Quiet`        : whether a part of a run writes no output.
* `Cli.Program.task`     : what a command line asks to be reduced.

## Main statements

* `Target.delivered_of_write` : what is written is delivered.
* `Job.run_of_result`         : what comes of a job is told by its result.
* `written_on_success`        : jobs and commands write on success only.
-/

namespace Transclude

/-! ## Delivery -/

/-- Whether bytes were delivered to a path that leads to a place: they are what is there now, unless
a device is there, which swallows them. In other places there are at most new directories above the
path. -/
structure FileTree.DeliveredAt (cwd path : String) (bytes : List UInt8) (t t' : FileTree)
    (place : List String) : Prop where
  holds : t'.locate cwd path =
    .ok (place, some (if t.node? place = some .device then .device else .file bytes))
  others : ∀ other, other ≠ place → t'.node? other = t.node? other ∨
    t.node? other = none ∧ t'.node? other = some .directory ∧
      ∃ n, t'.locate cwd (Path.ancestor (Path.parent path) n) = .ok (other, some .directory)

/-- Whether the output after something is that before, and a text at a target. -/
def Target.Delivered (cwd : String) (encoding : EncodingChoice) (text : String) (o o' : Output) :
    Target → Prop
  | .nowhere => o' = o
  | .standard => o' = { o with standard := o.standard ++ text }
  | .stream => o' = { o with stream := o.stream ++ text }
  | .unsupported _ => False
  | .file path => ∃ bytes place, Encoding.contentOf encoding text = .ok bytes ∧
      FileTree.DeliveredAt cwd (Path.collapsed path) bytes o.files o'.files place ∧
      o' = { o with files := o'.files }

namespace FileTree

variable {t made emptied written : FileTree} {cwd path : String} {bytes : List UInt8}

/-- A file that is emptied and then written, after the directories above it were made, holds what
was written. -/
theorem delivered_of_writes (hmade : t.makeParents cwd path = (none, made))
    (hemptied : made.write cwd path [] = .ok emptied)
    (hwritten : emptied.write cwd path bytes = .ok written) :
    ∃ place, DeliveredAt cwd path bytes t written place := by
  have hprepared := prepared_of_makeParents hmade
  rw [write_again hemptied] at hwritten
  obtain ⟨place, ⟨hdevice, rfl⟩ | ⟨hnode, hother, hplace, hput, hnow⟩⟩ := write_eq hwritten
  · -- a device stays as it is
    obtain ⟨-, -, -, hthere⟩ := locate_eq_ok_iff.1 hdevice
    have hbefore := (hprepared.device_iff place).1 hthere
    exact ⟨place, by rw [hdevice, if_pos hbefore], fun other _ => hprepared other⟩
  · have hbefore : t.node? place ≠ some .device :=
      fun hdevice => hother ((hprepared.device_iff place).2 hdevice)
    have hkeeps : Keeps made written := by
      rw [hput]
      exact keeps_put fun h => absurd h hnode
    have hothers : ∀ other, other ≠ place → written.node? other = made.node? other := by
      intro other hne
      rw [hput, node?_put, if_neg hne.symm]
    refine ⟨place, by rw [hnow, if_neg hbefore], fun other hne => ?_⟩
    rcases hprepared other with hunchanged | ⟨hnone, hdirectory, n, hway⟩
    · exact .inl ((hothers other hne).trans hunchanged)
    · -- what led to the new directory leads to it still
      have hstill := (hothers other hne).trans hdirectory
      have hlater := locate_of_keeps hkeeps hway
      rw [hstill] at hlater
      exact .inr ⟨hnone, hstill, n, hlater⟩

end FileTree

variable {cwd text : String} {encoding : EncodingChoice} {o o' : Output}

/-- What is written to a file is delivered there. -/
theorem Output.delivered_of_toFile {path : String}
    (h : o.toFile cwd encoding path text = (none, o')) :
    ∃ bytes place, Encoding.writeFile encoding text = .ok bytes ∧
      FileTree.DeliveredAt cwd path bytes o.files o'.files place ∧
      o' = { o with files := o'.files } := by
  unfold toFile at h
  split at h
  · cases h
  · split at h
    · cases h
    · split at h
      · cases h
      · rename_i made hmade
        split at h
        · cases h
        · cases h
        · rename_i emptied _ hemptied
          split at h
          · cases h
          · rename_i bytes hbytes
            split at h
            · cases h
            · rename_i written hwritten
              cases h
              obtain ⟨place, hdelivered⟩ := FileTree.delivered_of_writes hmade hemptied hwritten
              exact ⟨bytes, place, hbytes, hdelivered, rfl⟩

/-- What is written to a target is delivered there. -/
theorem Target.delivered_of_write {target : Target} {written : Option String}
    (htext : Text.Ended text.toList) (h : target.write cwd encoding text o = (.ok written, o')) :
    target.Delivered cwd encoding text o o' := by
  cases target with
  | nowhere | standard | stream =>
    cases h
    rfl
  | unsupported shown => cases h
  | file path =>
    unfold write at h
    dsimp only at h
    split at h
    · cases h
    · rename_i written hfile
      cases h
      obtain ⟨bytes, place, hbytes, hdelivered⟩ := Output.delivered_of_toFile hfile
      rw [Encoding.writeFile_eq_contentOf encoding htext] at hbytes
      exact ⟨bytes, place, hbytes, hdelivered⟩

/-! ## Jobs -/

/-- A result that is not ok is fatal because of a diagnostic. -/
theorem Result.exists_fatal {r : Result} (h : r.ok = false) : ∃ d, r.firstFatal? = some d := by
  rw [ok, Option.isNone_eq_false_iff] at h
  exact Option.isSome_iff_exists.1 h

/-- No diagnostic makes a result fatal that is ok. -/
theorem Result.firstFatal?_of_ok {r : Result} (h : r.ok = true) : r.firstFatal? = none :=
  Option.isNone_iff_eq_none.1 h

/-- A document is reduced if its lines are computed to come to their end. -/
theorem Document.reduce_of_runWithin (bound : Nat) {d : Document} {s : Setting}
    {attributes : Mapping} {lines : List Line} {c : Context}
    (h : (Loop.start s d.name (AttributeSet.ofOptions attributes
      (d.intrinsics s.options.safeMode)) ⟨d.lines s.registry⟩).state.runWithin s bound =
        some (lines, c)) :
    ∃ journal, d.reduce s attributes = .ok ((Result.ofRun s d.name lines c).1, journal) := by
  unfold reduce
  dsimp only
  rw [Buffer.reduce_of_runWithin bound h]
  exact ⟨_, rfl⟩

namespace Job

/-- The result of a job, before it is refused or its text is written. -/
def result (j : Job) (cwd : String) (o : Output) : Except Failure Result :=
  ({ j with target := .nowhere, refuseFatal := false }.run cwd o).verdict

/-- A job comes to a result or to a failure, whatever is done with the result. -/
theorem run_eq (j : Job) (cwd : String) (o : Output) :
    (∃ e journal, ∀ target refuse, { j with target := target, refuseFatal := refuse }.run cwd o =
        { verdict := .error e, journal := journal, output := o }) ∨
      ∃ r journal, ∀ target refuse, { j with target := target, refuseFatal := refuse }.run cwd o =
        { j with target := target, refuseFatal := refuse }.conclude cwd r journal o := by
  -- neither the target nor the refusal is looked at before there is a result
  cases hread : j.source.read j.names o.files cwd j.options.encoding.meaning with
  | error e => exact .inl ⟨e, #[], fun _ _ => by rw [run, hread]⟩
  | ok d =>
    cases hattributes : j.options.attributeEntries with
    | error e => exact .inl ⟨.options e, #[], fun _ _ => by rw [run, hread, hattributes]⟩
    | ok attributes =>
      let s := d.setting o.files cwd j.options j.evaluator j.registry j.names
      cases hreduce : d.reduce s attributes with
      | error i =>
        refine .inl ⟨i.abort.toFailure, i.journal, fun _ _ => ?_⟩
        rw [run, hread, hattributes]
        dsimp only
        rw [hreduce]
      | ok outcome =>
        refine .inr ⟨outcome.1, outcome.2, fun _ _ => ?_⟩
        rw [run, hread, hattributes]
        dsimp only
        rw [hreduce]

/-- What comes of a job once there is a result, and the output after it. -/
def ending (j : Job) (cwd : String) (o : Output) (r : Result) : Except Failure Result × Output :=
  match r.firstFatal? with
  | some d => (if j.refuseFatal then .error (.fatal d r) else .ok r, o)
  | none =>
    match j.target.write cwd j.options.encoding.meaning r.text o with
    | (.ok _, o) => (.ok r, o)
    | (.error e, o) => (.error (.output e), o)

/-- What is done with a result is done with that of the last postprocessor. -/
theorem conclude_eq (j : Job) (cwd : String) (r : Result) (journal : Journal) (o : Output) :
    ((j.conclude cwd r journal o).verdict, (j.conclude cwd r journal o).output) =
      j.ending cwd o ((j.registry.postprocess r).getLast?.getD r) := by
  unfold conclude ending
  dsimp only
  cases ((j.registry.postprocess r).getLast?.getD r).firstFatal? with
  | some d => rfl
  | none =>
    cases j.target.write cwd j.options.encoding.meaning
        ((j.registry.postprocess r).getLast?.getD r).text o with
    | mk outcome after =>
      cases outcome with
      | ok written => rfl
      | error e => rfl

/-- A result that is not to be refused or written is the verdict. -/
theorem ending_of_nowhere (cwd : String) (o : Output) (r : Result) {j : Job}
    (htarget : j.target = .nowhere) (hrefuse : j.refuseFatal = false) :
    j.ending cwd o r = (.ok r, o) := by
  unfold ending
  rw [htarget, hrefuse]
  split
  · rfl
  · rfl

/-- What comes of a job is told by its result. -/
theorem run_of_result (j : Job) (cwd : String) (o : Output) :
    ((j.run cwd o).verdict, (j.run cwd o).output) = match j.result cwd o with
      | .error e => (.error e, o)
      | .ok r => j.ending cwd o r := by
  rcases j.run_eq cwd o with ⟨e, journal, hrun⟩ | ⟨r, journal, hrun⟩
  · have hjob : j.run cwd o = _ := hrun j.target j.refuseFatal
    rw [hjob, result, hrun]
  · -- the result is that of the same job, which is concluded without a target
    have hjob : j.run cwd o = j.conclude cwd r journal o := hrun j.target j.refuseFatal
    have hconclude :=
      conclude_eq { j with target := .nowhere, refuseFatal := false } cwd r journal o
    rw [ending_of_nowhere cwd o _ rfl rfl, Prod.mk.injEq] at hconclude
    rw [hjob, conclude_eq, result, hrun, hconclude.1]

variable {j : Job} {cwd : String} {o o' : Output} {r : Result}

/-- A fatal result leaves the output as it is. -/
theorem run_of_fatal {d : Diagnostic} (hresult : j.result cwd o = .ok r)
    (hfatal : r.firstFatal? = some d) :
    (j.run cwd o).verdict = (if j.refuseFatal then .error (.fatal d r) else .ok r) ∧
      (j.run cwd o).output = o := by
  have hrun := j.run_of_result cwd o
  rw [hresult] at hrun
  dsimp only at hrun
  rw [ending, hfatal] at hrun
  exact Prod.mk.inj hrun

/-- What comes of a job whose result is not fatal is told by the writing of its text. -/
theorem run_of_ok (hresult : j.result cwd o = .ok r) (hok : r.ok = true)
    {outcome : Except OutputError (Option String)}
    (hwrite : j.target.write cwd j.options.encoding.meaning r.text o = (outcome, o')) :
    (j.run cwd o).verdict = (outcome.mapError .output).map (fun _ => r) ∧
      (j.run cwd o).output = o' := by
  have hrun := j.run_of_result cwd o
  rw [hresult] at hrun
  dsimp only at hrun
  rw [ending, r.firstFatal?_of_ok hok] at hrun
  dsimp only at hrun
  rw [hwrite] at hrun
  cases outcome with
  | ok written => exact Prod.mk.inj hrun
  | error e => exact Prod.mk.inj hrun

/-- Whether a job writes its text if it has a result that is ok, and nothing if not, whether fatal
results are refused or not. -/
structure WritesOnSuccess (j : Job) (cwd : String) (o : Output) : Prop where
  failed : ∀ e, j.result cwd o = .error e →
    (j.run cwd o).verdict = .error e ∧ (j.run cwd o).output = o
  fatal : ∀ r, j.result cwd o = .ok r → r.ok = false →
    (j.run cwd o).output = o ∧ ∃ d, r.firstFatal? = some d ∧
      (j.run cwd o).verdict = (if j.refuseFatal then .error (.fatal d r) else .ok r)
  delivered : ∀ r, j.result cwd o = .ok r → r.ok = true → ∀ written o',
    j.target.write cwd j.options.encoding.meaning r.text o = (.ok written, o') →
      (j.run cwd o).verdict = .ok r ∧ (j.run cwd o).output = o' ∧
        j.target.Delivered cwd j.options.encoding.meaning r.text o o'

theorem writesOnSuccess (j : Job) (cwd : String) (o : Output) : j.WritesOnSuccess cwd o where
  failed := by
    intro e he
    have hrun := j.run_of_result cwd o
    rw [he] at hrun
    exact Prod.mk.inj hrun
  fatal := by
    intro r hr h
    obtain ⟨d, hd⟩ := r.exists_fatal h
    obtain ⟨hverdict, houtput⟩ := run_of_fatal hr hd
    exact ⟨houtput, d, hd, hverdict⟩
  delivered := by
    intro r hr h written o' hwrite
    obtain ⟨hverdict, houtput⟩ := run_of_ok hr h hwrite
    exact ⟨hverdict, houtput, Target.delivered_of_write r.text_ended hwrite⟩

/-- What a job comes to within a number of lines. -/
def resultWithin (bound : Nat) (j : Job) (cwd : String) (o : Output) : Option Result :=
  match j.source.read j.names o.files cwd j.options.encoding.meaning,
    j.options.attributeEntries with
  | .ok d, .ok attributes =>
    let s := d.setting o.files cwd j.options j.evaluator j.registry j.names
    let start := AttributeSet.ofOptions attributes (d.intrinsics s.options.safeMode)
    ((Loop.start s d.name start ⟨d.lines s.registry⟩).state.runWithin s bound).map fun (lines, c) =>
      let r := (Result.ofRun s d.name lines c).1
      (j.registry.postprocess r).getLast?.getD r
  | _, _ => none

/-- What a job comes to within a number of lines is what it comes to. -/
theorem result_of_resultWithin (bound : Nat)
    (h : j.resultWithin bound cwd o = some r) : j.result cwd o = .ok r := by
  unfold resultWithin at h
  split at h
  · rename_i d attributes hread hattributes
    obtain ⟨⟨lines, c⟩, hrun, rfl⟩ := Option.map_eq_some_iff.1 h
    obtain ⟨journal, hreduced⟩ := Document.reduce_of_runWithin bound hrun
    have hconclude := conclude_eq { j with target := .nowhere, refuseFatal := false } cwd
      (Result.ofRun (d.setting o.files cwd j.options j.evaluator j.registry j.names) d.name lines
        c).1 journal o
    rw [ending_of_nowhere cwd o _ rfl rfl] at hconclude
    unfold result run
    dsimp only
    rw [hread, hattributes]
    dsimp only
    rw [hreduced]
    exact (Prod.mk.inj hconclude).1
  · cases h

end Job

/-! ## Runs of the program -/

namespace Cli

namespace Run

variable {α β : Type}

/-- Whether a part of a run writes no output, whatever comes of it. -/
def Quiet (m : Run α) : Prop := ∀ s : Session, (m.run.run s).2.output = s.output

/-- A part after another begins where that one ends. -/
theorem run_bind (m : Run α) (f : α → Run β) (s : Session) :
    (m >>= f).run.run s =
      match m.run.run s with
      | (.ok a, s) => (f a).run.run s
      | (.error h, s) => (.error h, s) := by
  simp only [ExceptT.run_bind, StateT.run_bind]
  cases m.run.run s with
  | mk outcome s =>
    cases outcome with
    | ok a => rfl
    | error h => rfl

/-- The verdict of a part is what comes of it. -/
theorem run_verdict (m : Run α) (s : Session) :
    m.verdict.run.run s = (.ok (m.run.run s).1, (m.run.run s).2) := rfl

theorem Quiet.bind {m : Run α} {f : α → Run β} (hm : Quiet m) (hf : ∀ a, Quiet (f a)) :
    Quiet (m >>= f) := by
  intro s
  have hfirst := hm s
  rw [run_bind]
  cases hrun : m.run.run s with
  | mk outcome after =>
    rw [hrun] at hfirst
    cases outcome with
    | ok a => exact (hf a after).trans hfirst
    | error h => exact hfirst

theorem Quiet.pure (a : α) : Quiet (Pure.pure a) := fun _ => rfl

theorem Quiet.throw (h : Halt) : Quiet (throw h : Run α) := fun _ => rfl

theorem Quiet.get : Quiet (get : Run Session) := fun _ => rfl

/-- A change of what is left behind writes nothing if it keeps the output. -/
theorem Quiet.modify {f : Session → Session} (h : ∀ s, (f s).output = s.output) :
    Quiet (modify f : Run Unit) := h

theorem Quiet.ofExcept (r : Except Problem α) : Quiet (ofExcept r) := by
  cases r with
  | ok a => exact .pure a
  | error p => exact .throw _

theorem Quiet.consult (paths : List String) : Quiet (consult paths) := .modify fun _ => rfl

theorem Quiet.note (journal : Journal) : Quiet (note journal) :=
  (Quiet.consult _).bind fun _ => .modify fun _ => rfl

/-- The log goes to the error messages. -/
theorem Quiet.setUpLog (level : Nat) (format : String) : Quiet (setUpLog level format) := by
  refine Quiet.get.bind fun s => ?_
  split
  refine Quiet.bind (.modify fun _ => rfl) fun _ => ?_
  split
  · exact .throw _
  · exact .pure ()

/-- The output is replaced, and what was found on the way is what comes of it. -/
theorem run_replace (f : Output → α × Output) (s : Session) :
    (do
      let s ← get
      set { s with output := (f s.output).2 }
      pure (f s.output).1 : Run α).run.run s =
        (.ok (f s.output).1, { s with output := (f s.output).2 }) := rfl

/-- A text is written to the target of a name; the paths that are looked at are no output. -/
theorem run_write (here : Surroundings) (name text : String) (s : Session) :
    ∃ after, (write here name text).run.run s =
        (.ok ((Target.ofName name).write here.cwd .surroundings text s.output).1, after) ∧
      after.output = ((Target.ofName name).write here.cwd .surroundings text s.output).2 := by
  have hreplace (target : Target) :=
    run_replace fun o => target.write here.cwd .surroundings text o
  unfold write
  dsimp only
  have hconsult (paths : List String) : (consult paths).run.run s =
      (.ok (), { s with consulted := s.consulted ++ paths }) := rfl
  cases Target.ofName name with
  | nowhere | standard | stream | unsupported =>
    dsimp only
    rw [hreplace]
    exact ⟨_, rfl, rfl⟩
  | file path =>
    dsimp only
    rw [run_bind, hconsult]
    dsimp only
    rw [hreplace]
    dsimp only
    -- how the file is written does not matter here
    generalize (Target.file path).write here.cwd .surroundings text s.output = written
    exact ⟨_, rfl, rfl⟩

end Run

/-- The report of a success whose text went to the target of a name, if reports are to be made. -/
def Reporter.summary (reporter : Reporter) (name : String) (written : Option String) (r : Result) :
    String :=
  if reporter.json then
    reporter.render (.map [("status", .text "success"), ("output", .text (written.getD name)),
      ("lines", .int r.lines.length), ("diagnostics", Program.diagnostics r)])
  else ""

namespace Program

open Cli.Run

theorem quiet_configuration (here : Surroundings) (choices : Choices) :
    Quiet (configuration here choices) :=
  (Quiet.note _).bind fun _ => .ofExcept _

theorem quiet_setUpLog (choices : Choices) (config : Mapping) :
    Quiet (setUpLog choices config) := by
  unfold setUpLog
  dsimp only
  split
  · exact (Quiet.pure _).bind fun level => .setUpLog _ _
  · exact (Quiet.ofExcept _).bind fun level => .setUpLog _ _

theorem quiet_extensions (here : Surroundings) (choices : Choices) :
    Quiet (extensions here choices) := by
  refine (Quiet.note _).bind fun _ => ?_
  split
  · exact .pure _
  all_goals exact .throw _

/-- What a command line asks to be reduced, with which options and which hooks. -/
def task (here : Surroundings) (i : Invocation) : Run (Source × Options × Registry) := do
  let config ← configuration here i.choices
  setUpLog i.choices config
  let registry ← extensions here i.choices
  let options ← Run.ofExcept
    ((Options.ofConfig config (overriding i.choices config)).mapError .options)
  let source ← Run.ofExcept (source here i.document)
  Run.consult source.consulted
  pure (source, options, registry)

/-- The result of a task, however fatal it is. -/
def carriedOut (here : Surroundings) (t : Source × Options × Registry) : Run Result := do
  let job : Job :=
    { source := t.1, options := t.2.1, registry := t.2.2, names := here.names,
      refuseFatal := false }
  let outcome := job.run here.cwd (← get).output
  Run.note outcome.journal
  Run.ofExcept (outcome.verdict.mapError .reduction)

/-- A task comes to the result of its job. -/
theorem carriedOut_of_result {here : Surroundings} {source : Source} {options : Options}
    {registry : Registry} {s : Session} {r : Result}
    (h : Job.result { source, options, registry, names := here.names } here.cwd s.output = .ok r) :
    ((carriedOut here (source, options, registry)).run.run s).1 = .ok r := by
  let job : Job := { source, options, registry, names := here.names, refuseFatal := false }
  have hverdict : (job.run here.cwd s.output).verdict = .ok r := h
  unfold carriedOut
  rw [run_bind]
  show ((ofExcept ((job.run here.cwd s.output).verdict.mapError .reduction)).run.run _).1 = _
  rw [hverdict]
  rfl

/-- The reduction that a command line asks for carries out its task. -/
theorem reduction_eq (here : Surroundings) (i : Invocation) :
    reduction here i = task here i >>= carriedOut here := by
  simp only [task, bind_assoc, pure_bind]
  rfl

theorem quiet_task (here : Surroundings) (i : Invocation) : Quiet (task here i) := by
  -- one part after the other
  refine (quiet_configuration _ _).bind fun config => ?_
  refine (quiet_setUpLog _ _).bind fun _ => ?_
  refine (quiet_extensions _ _).bind fun registry => ?_
  refine (Quiet.ofExcept _).bind fun options => ?_
  refine (Quiet.ofExcept _).bind fun source => ?_
  exact (Quiet.consult _).bind fun _ => .pure _

/-- What comes before the verdict writes nothing. -/
theorem quiet_reduction (here : Surroundings) (i : Invocation) : Quiet (reduction here i) := by
  rw [reduction_eq]
  refine (quiet_task here i).bind fun t => ?_
  exact Quiet.get.bind fun s => (Quiet.note _).bind fun _ => .ofExcept _

/-- A failure is told among the error messages. -/
theorem quiet_failure (reporter : Reporter) (message code : String) (context : Option Mapping) :
    Quiet (say (reporter.failure message code context)) := by
  refine .modify fun s => ?_
  have hstandard : (reporter.failure message code context).standard = "" := by
    unfold Reporter.failure
    split
    · rfl
    · rfl
  rw [hstandard, String.append_empty]

theorem quiet_withoutResult (reporter : Reporter) (h : Halt) :
    Quiet (withoutResult reporter h) := by
  -- what is reported is a failure, and all else is passed on
  unfold withoutResult
  split
  · split
    · exact (quiet_failure _ _ _ _).bind fun _ => .pure _
    · split
      · exact (quiet_failure _ _ _ _).bind fun _ => .pure _
      · exact .throw _
  · exact .throw _

/-- A command ends as its result says. -/
theorem command_eq (here : Surroundings) (i : Invocation) (s : Session) :
    (command here i).run.run s =
      match (reduction here i).run.run s with
      | (.error h, s) => (withoutResult { json := i.choices.json } h).run.run s
      | (.ok r, s) =>
        match i.command with
        | .reduce => (writeText here i.choices { json := i.choices.json } r).run.run s
        | .sourceMap => (writeMap here i.choices { json := i.choices.json } r).run.run s := by
  unfold command
  dsimp only
  rw [run_bind, run_verdict]
  cases (reduction here i).run.run s with
  | mk outcome after =>
    cases outcome with
    | error h => rfl
    | ok r => cases i.command <;> rfl

/-- The report of a success that carries the text. -/
def textReport (r : Result) : Value :=
  .map [("status", .text "success"), ("text", .text r.text), ("diagnostics", diagnostics r)]

variable (here : Surroundings) (choices : Choices) (reporter : Reporter) {r : Result}

/-- A fatal result is told among the error messages. -/
theorem writeText_of_fatal (s : Session) {d : Diagnostic} (h : r.firstFatal? = some d) :
    ((writeText here choices reporter r).run.run s).1 = .ok 1 ∧
      ((writeText here choices reporter r).run.run s).2.output = s.output := by
  unfold writeText
  rw [h]
  exact ⟨rfl, quiet_failure reporter d.message "reduction_failed" none s⟩

/-- Where a report is asked for in place of the text, it carries the text. -/
theorem writeText_of_report (s : Session) (h : r.firstFatal? = none)
    (hreport : (choices.json && targetName choices == "-") = true) (hjson : reporter.json = true) :
    ((writeText here choices reporter r).run.run s).1 = .ok 0 ∧
      ((writeText here choices reporter r).run.run s).2.output =
        { s.output with standard := s.output.standard ++ reporter.render (textReport r) } := by
  have hsuccess : reporter.success [("text", .text r.text), ("diagnostics", diagnostics r)] =
      { standard := reporter.render (textReport r) } := by
    unfold Reporter.success
    rw [if_pos hjson]
    rfl
  unfold writeText
  rw [h]
  dsimp only
  rw [if_pos hreport, hsuccess]
  exact ⟨rfl, rfl⟩

/-- Any other text is written to its target, and a report is made if one is asked for. -/
theorem writeText_of_target {s : Session} (h : r.firstFatal? = none)
    (htarget : (choices.json && targetName choices == "-") = false)
    (hjson : reporter.json = choices.json) {written : Option String} {o : Output}
    (hwrite : (Target.ofName (targetName choices)).write here.cwd .surroundings r.text s.output =
      (.ok written, o)) :
    ((writeText here choices reporter r).run.run s).1 = .ok 0 ∧
      ((writeText here choices reporter r).run.run s).2.output =
        { o with standard := o.standard ++ reporter.summary (targetName choices) written r } := by
  obtain ⟨after, hrun, hafter⟩ := run_write here (targetName choices) r.text s
  rw [hwrite] at hrun hafter
  obtain rfl : after.output = o := hafter
  unfold writeText
  rw [h]
  dsimp only
  rw [htarget, if_neg (by decide), run_bind, hrun]
  dsimp only
  unfold Reporter.summary
  by_cases hreport : choices.json = true
  · have hsuccess : reporter.success [("output", .text (written.getD (targetName choices))),
        ("lines", .int r.lines.length), ("diagnostics", diagnostics r)] =
        { standard := reporter.render (.map [("status", .text "success"),
          ("output", .text (written.getD (targetName choices))),
          ("lines", .int r.lines.length), ("diagnostics", diagnostics r)]) } := by
      unfold Reporter.success
      rw [hjson, if_pos hreport]
      rfl
    rw [hjson, if_pos hreport, if_pos hreport, hsuccess]
    exact ⟨rfl, rfl⟩
  · rw [hjson, if_neg hreport, if_neg hreport, String.append_empty]
    exact ⟨rfl, rfl⟩

/-- A run that carries out a command ends as the command does, and writes no more than it. -/
theorem run_of_command {arguments : List String} {i : Invocation}
    (hread : Invocation.read arguments = .ok i) :
    let start : Session := { output := { files := here.files } }
    (run here arguments).1 = (ending i.choices.trace ((command here i).run.run start).1).1 ∧
      (run here arguments).2.output = ((command here i).run.run start).2.output := by
  intro start
  have hshown : ∀ verdict, (ending i.choices.trace verdict).2.standard = "" := by
    intro verdict
    unfold ending
    split
    · rfl
    · rfl
    · rfl
    · split
      · rfl
      · rfl
  unfold run
  rw [hread]
  dsimp only
  cases (command here i).run.run { output := { files := here.files } } with
  | mk verdict session =>
    dsimp only
    rw [hshown, String.append_empty]
    exact ⟨rfl, rfl⟩

/-- What the reduction that a command line asks for comes to. -/
def verdict (here : Surroundings) (i : Invocation) : Except Halt Result :=
  ((reduction here i).run.run { output := { files := here.files } }).1

/-- What the reduction that a command line asks for comes to within a number of lines. -/
def verdictWithin (bound : Nat) (here : Surroundings) (i : Invocation) : Option Result :=
  match (task here i).run.run { output := { files := here.files } } with
  | (.ok (source, options, registry), s) =>
    Job.resultWithin bound { source, options, registry, names := here.names } here.cwd s.output
  | (.error _, _) => none

/-- What the reduction comes to within a number of lines is what it comes to. -/
theorem verdict_of_verdictWithin (bound : Nat) {here : Surroundings} {i : Invocation} {r : Result}
    (h : verdictWithin bound here i = some r) : verdict here i = .ok r := by
  unfold verdictWithin at h
  unfold verdict
  rw [reduction_eq, run_bind]
  split at h
  · rename_i source options registry s htask
    rw [htask]
    exact carriedOut_of_result (Job.result_of_resultWithin bound h)
  · cases h

variable {arguments : List String} {i : Invocation}

/-- A run that comes to no result writes nothing. -/
theorem run_of_error {h : Halt} (hread : Invocation.read arguments = .ok i)
    (hverdict : verdict here i = .error h) :
    (run here arguments).2.output = { files := here.files } := by
  have hquiet := quiet_reduction here i { output := { files := here.files } }
  obtain ⟨-, houtput⟩ := run_of_command here hread
  unfold verdict at hverdict
  rw [command_eq] at houtput
  cases hreduction : (reduction here i).run.run { output := { files := here.files } } with
  | mk outcome reduced =>
    rw [hreduction] at hverdict houtput hquiet
    obtain rfl : outcome = .error h := hverdict
    exact (houtput.trans (quiet_withoutResult _ h reduced)).trans hquiet

/-- The command to reduce a document writes the text of the result, and up to there nothing is
written. -/
theorem run_of_ok (hread : Invocation.read arguments = .ok i) (hcommand : i.command = .reduce)
    (hverdict : verdict here i = .ok r) :
    let reporter : Reporter := { json := i.choices.json }
    ∃ reduced : Session, reduced.output = { files := here.files } ∧
      (run here arguments).1 = (ending i.choices.trace
        ((writeText here i.choices reporter r).run.run reduced).1).1 ∧
      (run here arguments).2.output =
        ((writeText here i.choices reporter r).run.run reduced).2.output := by
  have hquiet := quiet_reduction here i { output := { files := here.files } }
  obtain ⟨hexit, houtput⟩ := run_of_command here hread
  unfold verdict at hverdict
  rw [command_eq] at hexit houtput
  cases hreduction : (reduction here i).run.run { output := { files := here.files } } with
  | mk outcome reduced =>
    rw [hreduction] at hverdict hexit houtput hquiet
    obtain rfl : outcome = .ok r := hverdict
    dsimp only at hexit houtput
    rw [hcommand] at hexit houtput
    exact ⟨reduced, hquiet, hexit, houtput⟩

/-- Whether a run of the program that is to reduce a document writes the text if there is a result
that is ok, and nothing if not. Where a report is to be made, it stands in place of a text that
would go to standard output, and there beside a text that goes elsewhere. -/
structure WritesOnSuccess (here : Surroundings) (arguments : List String)
    (i : Invocation) : Prop where
  failed : ∀ h, verdict here i = .error h → (run here arguments).2.output = { files := here.files }
  fatal : ∀ r, verdict here i = .ok r → r.ok = false →
    (run here arguments).1 = .status 1 ∧ (run here arguments).2.output = { files := here.files }
  reported : ∀ r, verdict here i = .ok r → r.ok = true →
    i.choices.json = true → targetName i.choices = "-" →
      (run here arguments).1 = .status 0 ∧ (run here arguments).2.output =
        { files := here.files
          standard := ({ json := i.choices.json } : Reporter).render (textReport r) }
  delivered : ∀ r, verdict here i = .ok r → r.ok = true →
    (i.choices.json = true → targetName i.choices ≠ "-") → ∀ written o',
      (Target.ofName (targetName i.choices)).write here.cwd .surroundings r.text
          { files := here.files } = (.ok written, o') →
        (run here arguments).1 = .status 0 ∧
        (Target.ofName (targetName i.choices)).Delivered here.cwd .surroundings r.text
          { files := here.files } o' ∧
        (run here arguments).2.output = { o' with
          standard := o'.standard ++ ({ json := i.choices.json } : Reporter).summary
            (targetName i.choices) written r }

theorem writesOnSuccess (hread : Invocation.read arguments = .ok i)
    (hcommand : i.command = .reduce) : WritesOnSuccess here arguments i where
  failed := fun _ => run_of_error here hread
  fatal := by
    intro r hr h
    obtain ⟨d, hd⟩ := r.exists_fatal h
    obtain ⟨reduced, hquiet, hexit, houtput⟩ := run_of_ok here hread hcommand hr
    obtain ⟨hstatus, hquietly⟩ := writeText_of_fatal here i.choices _ reduced hd
    rw [hstatus] at hexit
    exact ⟨hexit, houtput.trans (hquietly.trans hquiet)⟩
  reported := by
    intro r hr h hjson hname
    -- the text is not written, but reported
    have hreport : (i.choices.json && targetName i.choices == "-") = true := by
      rw [hjson, Bool.true_and]
      exact beq_iff_eq.2 hname
    obtain ⟨reduced, hquiet, hexit, houtput⟩ := run_of_ok here hread hcommand hr
    obtain ⟨hstatus, hreported⟩ := writeText_of_report here i.choices
      { json := i.choices.json } reduced (r.firstFatal?_of_ok h) hreport hjson
    rw [hstatus] at hexit
    -- nothing stood before the report
    rw [hquiet] at hreported
    exact ⟨hexit, houtput.trans hreported⟩
  delivered := by
    intro r hr h hname written o' hwrite
    have htarget : (i.choices.json && targetName i.choices == "-") = false := by
      cases hjson : i.choices.json with
      | true => exact beq_eq_false_iff_ne.2 (hname hjson)
      | false => rfl
    obtain ⟨reduced, hquiet, hexit, houtput⟩ := run_of_ok here hread hcommand hr
    have hthere := hwrite
    rw [← hquiet] at hthere
    obtain ⟨hstatus, hwritten⟩ := writeText_of_target here i.choices
      { json := i.choices.json } (r.firstFatal?_of_ok h) htarget rfl hthere
    rw [hstatus] at hexit
    exact ⟨hexit, Target.delivered_of_write r.text_ended hwrite, houtput.trans hwritten⟩

end Program

end Cli

/-- Output is written on success only, by jobs without hooks and by the command that reduces a
document without extensions. -/
theorem written_on_success :
    (∀ (j : Job) (cwd : String) (o : Output), j.registry.isEmpty = true →
        j.WritesOnSuccess cwd o) ∧
      ∀ (here : Cli.Surroundings) (arguments : List String) (i : Cli.Invocation),
        Cli.Invocation.read arguments = .ok i → i.command = .reduce →
        Cli.extensionNames i.choices.extensions = [] →
          Cli.Program.WritesOnSuccess here arguments i :=
  ⟨fun j cwd o _ => j.writesOnSuccess cwd o, fun here _ _ hread hcommand _ =>
    Cli.Program.writesOnSuccess here hread hcommand⟩

/-- A text of one line is delivered to a file, by a job and by a command. -/
theorem written_on_success_line :
    let j : Job := { source := .text "x\n", target := .file "out" }
    let here : Cli.Surroundings := { files := ⟨[(["a"], .file [120, 10])]⟩, cwd := "/" }
    let start : Output := { files := here.files }
    let after : Output := { files := start.files.put ["out"] (.file [120, 10]) }
    (∃ r : Result, (j.run "/" start).verdict = .ok r ∧ (j.run "/" start).output = after ∧
      j.target.Delivered "/" (.named "utf-8") r.text start after) ∧
    ∃ r : Result, (Cli.Program.run here ["a", "-o", "out"]).1 = .status 0 ∧
      (Target.file "out").Delivered "/" .surroundings r.text start after ∧
      (Cli.Program.run here ["a", "-o", "out"]).2.output = after := by
  intro j here start after
  refine ⟨?_, ?_⟩
  · have hwithin : (j.resultWithin 3 "/" start).map (fun r => (r.ok, r.text)) =
        some (true, "x\n") := by decide +kernel
    obtain ⟨r, hr, hshown⟩ := Option.map_eq_some_iff.1 hwithin
    obtain ⟨hok, htext⟩ := Prod.mk.inj hshown
    have hwrite : j.target.write "/" j.options.encoding.meaning r.text start =
        (.ok (some "out"), after) := by
      rw [htext]
      decide +kernel
    have hresult := Job.result_of_resultWithin 3 hr
    exact ⟨r, (written_on_success.1 j "/" start rfl).delivered r hresult hok _ _ hwrite⟩
  · let i : Cli.Invocation :=
      { command := .reduce, document := "a", choices := { output := some "out" } }
    have hread : Cli.Invocation.read ["a", "-o", "out"] = .ok i := by rfl
    have hwithin : (Cli.Program.verdictWithin 3 here i).map (fun r => (r.ok, r.text)) =
        some (true, "x\n") := by decide +kernel
    obtain ⟨r, hr, hshown⟩ := Option.map_eq_some_iff.1 hwithin
    obtain ⟨hok, htext⟩ := Prod.mk.inj hshown
    have hwrite : (Target.ofName "out").write here.cwd .surroundings r.text start =
        (.ok (some "out"), after) := by
      rw [htext]
      decide +kernel
    have hverdict := Cli.Program.verdict_of_verdictWithin 3 hr
    have hrun := written_on_success.2 here ["a", "-o", "out"] i hread rfl rfl
    exact ⟨r, hrun.delivered r hverdict hok (fun h => by cases h) _ _ hwrite⟩

/-- A line without a point is a label that nothing ends. As names of domains the text can be encoded,
but nothing of it is written to a file, and the job has its result. -/
theorem Job.run_label :
    let j : Job :=
      { source := .text "x\n", options := { encoding := ⟨.named "idna", .text "idna"⟩ },
        target := .file "out" }
    let o : Output := { files := ⟨[(["out"], .file [111, 108, 100])]⟩ }
    ∃ r, (j.run "/" o).verdict = .ok r ∧ Encoding.encode .idna r.text = .ok [120, 10] ∧
      (j.run "/" o).output.files.read "/" "out" = .ok [] := by
  intro j o
  have hwithin : (j.resultWithin 3 "/" o).map (fun r => (r.ok, r.text)) = some (true, "x\n") := by
    decide +kernel
  obtain ⟨r, hr, hshown⟩ := Option.map_eq_some_iff.1 hwithin
  obtain ⟨hok, htext⟩ := Prod.mk.inj hshown
  have hresult := Job.result_of_resultWithin 3 hr
  have hwritten : (j.target.write "/" (.named "idna") "x\n" o).1.toOption = some (some "out") := by
    decide +kernel
  have hemptied : (j.target.write "/" (.named "idna") "x\n" o).2.files.read "/" "out" = .ok [] := by
    decide +kernel
  obtain ⟨outcome, after, hwrite⟩ : ∃ outcome after,
      j.target.write "/" (.named "idna") "x\n" o = (outcome, after) := ⟨_, _, rfl⟩
  rw [hwrite] at hwritten hemptied
  obtain rfl : outcome = .ok (some "out") := eq_ok_of_toOption hwritten
  have hwhole : Encoding.encode .idna "x\n" = .ok [120, 10] := eq_ok_of_toOption (by decide +kernel)
  rw [← htext] at hwrite hwhole
  obtain ⟨hverdict, houtput⟩ := Job.run_of_ok hresult hok hwrite
  refine ⟨r, hverdict, hwhole, ?_⟩
  rw [houtput]
  exact hemptied

/-- A report is written beside the file that the text went to, and a file does not hold a label of
which the end is not told. -/
theorem report_beside_file :
    let here : Cli.Surroundings := { files := ⟨[(["a"], .file [120, 10])]⟩, cwd := "/" }
    let i : Cli.Invocation :=
      { command := .reduce, document := "a", choices := { output := some "out", json := true } }
    let start : Output := { files := here.files }
    let after : Output := { files := start.files.put ["out"] (.file [120, 10]) }
    let j : Job :=
      { source := .text "x\n", options := { encoding := ⟨.named "idna", .text "idna"⟩ },
        target := .file "out" }
    let o : Output := { files := ⟨[(["out"], .file [111, 108, 100])]⟩ }
    (Cli.Invocation.read ["--json", "a", "-o", "out"] = .ok i ∧
      Cli.extensionNames i.choices.extensions = [] ∧
      (∃ r, Cli.Program.verdict here i = .ok r ∧ r.ok = true ∧
        (Target.file "out").write "/" .surroundings r.text start = (.ok (some "out"), after)) ∧
      (Cli.Program.run here ["--json", "a", "-o", "out"]).1 = .status 0 ∧
      (Cli.Program.run here ["--json", "a", "-o", "out"]).2.output.files = after.files ∧
      (Cli.Program.run here ["--json", "a", "-o", "out"]).2.output.standard ≠ start.standard) ∧
    j.registry.isEmpty = true ∧
      ∃ r, (j.run "/" o).verdict = .ok r ∧ Encoding.encode .idna r.text = .ok [120, 10] ∧
        (j.run "/" o).output.files.read "/" "out" = .ok [] := by
  intro here i start after j o
  refine ⟨?_, rfl, Job.run_label⟩
  have hread : Cli.Invocation.read ["--json", "a", "-o", "out"] = .ok i := by rfl
  have hwithin : (Cli.Program.verdictWithin 3 here i).map
      (fun r => (r.ok, r.text, r.lines.length, r.diagnostics)) = some (true, "x\n", 1, []) := by
    decide +kernel
  obtain ⟨r, hr, hshown⟩ := Option.map_eq_some_iff.1 hwithin
  simp only [Prod.mk.injEq] at hshown
  obtain ⟨hok, htext, hlength, hdiagnostics⟩ := hshown
  have hwrite : (Target.file "out").write "/" .surroundings r.text start =
      (.ok (some "out"), after) := by
    rw [htext]
    decide +kernel
  have hverdict := Cli.Program.verdict_of_verdictWithin 3 hr
  obtain ⟨hexit, -, houtput⟩ := (Cli.Program.writesOnSuccess here hread rfl).delivered r hverdict
    hok (fun _ => by decide) _ _ hwrite
  refine ⟨hread, rfl, ⟨r, hverdict, hok, hwrite⟩, hexit, ?_, ?_⟩
  · rw [houtput]
  · rw [houtput]
    unfold Cli.Reporter.summary Cli.Program.diagnostics
    rw [hlength, hdiagnostics]
    decide +kernel

end Transclude
