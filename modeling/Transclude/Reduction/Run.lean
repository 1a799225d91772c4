import Transclude.Reduction.Simulation

/-!
# Running a reduction

A reduction takes turns until nothing is left to be found. The same reduction can be run line by
line, which needs no buffer and no cursor.

## Main definitions

* `Loop.run`      : the lines and the context when nothing is left to be found.
* `State.run`     : the same, line by line.
* `Result.ofRun`  : the result of a reduction that has come to its end.
* `Buffer.reduce` : the result of reducing a buffer, and the journal of the reduction.

## Main statements

* `Loop.run_eq` : a loop ends as the reduction of its lines does.
-/

namespace Transclude

namespace State

/-- The lines and the context when no line is left to be read. -/
def run (setting : Setting) (s : State) : Except Interruption (List Line × Context) :=
  match _hstep : s.step setting with
  | .ok none => .ok (s.emitted.toList, s.toContext)
  | .ok (some t) => run setting t
  | .error i => .error i
termination_by (PendingLt.wellFounded setting.options.maxIncludeDepth.meaning).wrap s.pending
decreasing_by exact pendingLt_of_after _hstep

end State

namespace Loop

/-- The lines and the context when nothing is left to be found. -/
def run (setting : Setting) (l : Loop) : Except Interruption (List Line × Context) :=
  match hstep : l.step setting with
  | .ok (.last m) => .ok (m.buffer.lines, m.toContext)
  | .ok (.next m) => run setting m
  | .error (.interrupted i) => .error i
  | .error (.outOfRange e) => absurd hstep (l.step_inRange setting e)
termination_by
  (PendingLt.wellFounded setting.options.maxIncludeDepth.meaning).transGen.wrap l.state.pending
decreasing_by exact pendingLt_of_step hstep

end Loop

/-- What a reduction of the file `file` knows at its start. -/
def Context.start (setting : Setting) (file : String) (attributes : AttributeSet) : Context :=
  { attributes := attributes, directories := [(file, setting.rootDirectory)] }

/-- The loop at the start of a reduction of the file `file`. -/
def Loop.start (setting : Setting) (file : String) (attributes : AttributeSet) (b : Buffer) :
    Loop :=
  { toContext := .start setting file attributes, buffer := b }

/-- The result of a reduction of the file `file` that ends with the given lines, and its journal. -/
def Result.ofRun (setting : Setting) (file : String) (lines : List Line) (c : Context) :
    Result × Journal :=
  let c := c.finish
  ({ file := file
     lines := lines
     diagnostics := c.journal.diagnostics
     failureLevel := setting.options.failureLevel
     attributes := c.attributes.values }, c.journal)

/-- The result of reducing a buffer that holds the file `file`, with the given attributes at its
start, and the journal of the reduction. -/
def Buffer.reduce (setting : Setting) (file : String) (attributes : AttributeSet) (b : Buffer) :
    Except Interruption (Result × Journal) :=
  (Loop.run setting (.start setting file attributes b)).map
    fun (lines, c) => Result.ofRun setting file lines c

/-! ## The loop and the lines -/

namespace State

variable {setting : Setting} {s t : State}

/-- A run ends as its first step says. -/
theorem run_eq (setting : Setting) (s : State) :
    s.run setting = match s.step setting with
      | .ok none => .ok (s.emitted.toList, s.toContext)
      | .ok (some t) => t.run setting
      | .error i => .error i := by
  rw [run]
  split <;> rename_i h <;> rw [h]

/-- A run in which no line is left to be read has ended. -/
theorem run_of_nil {c : Context} {emitted : Array Line} :
    run setting ⟨c, emitted, []⟩ = .ok (emitted.toList, c) := by
  rw [run_eq, step_of_nil rfl]

/-- Where there is no next step, a run has ended. -/
theorem run_of_end (h : s.step setting = .ok none) :
    s.run setting = .ok (s.emitted.toList, s.toContext) := by
  rw [run_eq, h]

/-- A run goes on from the state after the next line. -/
theorem run_of_after (h : After setting t s) : s.run setting = t.run setting := by
  rw [run_eq, h]

/-- A run is interrupted where the next line is. -/
theorem run_of_error {i : Interruption} (h : s.step setting = .error i) :
    s.run setting = .error i := by
  rw [run_eq, h]

/-- What a run comes to within a number of lines. -/
def runWithin (setting : Setting) : Nat → State → Option (List Line × Context)
  | 0, _ => none
  | bound + 1, s =>
    match s.step setting with
    | .ok none => some (s.emitted.toList, s.toContext)
    | .ok (some t) => runWithin setting bound t
    | .error _ => none

/-- What a run comes to within a number of lines is what it comes to. -/
theorem run_of_runWithin (bound : Nat) {result : List Line × Context}
    (h : s.runWithin setting bound = some result) : s.run setting = .ok result := by
  induction bound generalizing s with
  | zero => cases h
  | succ bound ih =>
    rw [runWithin] at h
    rw [run_eq]
    cases hstep : s.step setting with
    | error i =>
      rw [hstep] at h
      cases h
    | ok next =>
      rw [hstep] at h
      cases next with
      | none => exact congrArg Except.ok (Option.some.inj h)
      | some t => exact ih h

/-- The state after a number of lines, if the run comes to it. -/
def ahead? (setting : Setting) : Nat → State → Option State
  | 0, s => some s
  | count + 1, s =>
    match s.step setting with
    | .ok (some t) => ahead? setting count t
    | .ok none | .error _ => none

/-- The state after a number of lines is reached. -/
theorem Leads.of_ahead? (count : Nat) (h : s.ahead? setting count = some t) :
    Leads setting s t := by
  induction count generalizing s with
  | zero =>
    cases h
    exact .refl t
  | succ count ih =>
    rw [ahead?] at h
    split at h
    · rename_i hstep
      exact .step hstep (ih h)
    · cases h
    · cases h

/-- Whether something is so of all states of a run that ends within a number of lines. -/
def allWithin (setting : Setting) (P : State → Prop) [DecidablePred P] : Nat → State → Bool
  | 0, _ => false
  | bound + 1, s => decide (P s) &&
    match s.step setting with
    | .ok (some t) => allWithin setting P bound t
    | .ok none | .error _ => true

/-- What is so of all states of a run that ends within a number of lines is so of all states that are
reached. -/
theorem Leads.of_allWithin {P : State → Prop} [DecidablePred P] (bound : Nat)
    (h : s.allWithin setting P bound = true) (hleads : Leads setting s t) : P t := by
  induction bound generalizing s with
  | zero => cases h
  | succ bound ih =>
    rw [allWithin, Bool.and_eq_true, decide_eq_true_iff] at h
    obtain ⟨hs, hrest⟩ := h
    cases hleads with
    | refl => exact hs
    | step hafter hleads =>
      rw [hafter] at hrest
      exact ih hrest hleads

/-- A run goes on from every state that is reached. -/
theorem run_of_leads (h : Leads setting s t) : s.run setting = t.run setting := by
  induction h with
  | refl => rfl
  | step after _ ih => exact (run_of_after after).trans ih

/-- A run ends alike in another setting if all its steps are alike there. -/
theorem run_congr {setting' : Setting}
    (h : ∀ t, Leads setting s t → t.step setting' = t.step setting) :
    s.run setting' = s.run setting := by
  fun_induction State.run setting s with
  | case1 s hstep => rw [run_eq, h s (.refl s), hstep]
  | case2 s t hstep ih =>
    rw [run_eq, h s (.refl s), hstep]
    exact ih fun u hleads => h u (.step hstep hleads)
  | case3 s i hstep => rw [run_eq, h s (.refl s), hstep]

/-- A run that comes to its end goes through states up to one in which no line is left to be
read. -/
theorem leads_of_run {lines : List Line} {c : Context} (h : s.run setting = .ok (lines, c)) :
    Leads setting s ⟨c, lines.toArray, []⟩ := by
  fun_induction State.run setting s with
  | case1 s hstep =>
    cases h
    obtain ⟨c, emitted, pending⟩ := s
    cases pending with
    | nil => exact .refl _
    | cons line rest =>
      rw [step_of_cons rfl] at hstep
      obtain ⟨_, _, hnone⟩ := eq_ok_of_map hstep
      cases hnone
  | case2 s t hstep ih => exact .step hstep (ih h)
  | case3 s i hstep => cases h

/-- A run that is interrupted goes through states up to one in which the next line is where it is
interrupted. -/
theorem leads_of_run_error {i : Interruption} (h : s.run setting = .error i) :
    ∃ u, Leads setting s u ∧ u.step setting = .error i := by
  fun_induction State.run setting s with
  | case1 s hstep => cases h
  | case2 s t hstep ih =>
    obtain ⟨u, hleads, herror⟩ := ih h
    exact ⟨u, .step hstep hleads, herror⟩
  | case3 s i' hstep =>
    cases h
    exact ⟨s, .refl s, hstep⟩

end State

/-- A loop ends as the reduction of its lines does. -/
theorem Loop.run_eq (setting : Setting) (l : Loop) : l.run setting = l.state.run setting := by
  fun_induction Loop.run setting l with
  | case1 l m hstep =>
    have hfollows := l.follows setting
    rw [hstep] at hfollows
    rw [State.run_of_leads hfollows.1, State.run_of_nil]
  | case2 l m hstep ih =>
    have hfollows := l.follows setting
    rw [hstep] at hfollows
    obtain ⟨s, t, hleads, hafter, rfl⟩ := hfollows
    rw [State.run_of_leads hleads, State.run_of_after hafter, ih, Loop.state_loop]
  | case3 l i hstep =>
    have hfollows := l.follows setting
    rw [hstep] at hfollows
    obtain ⟨s, hleads, herror⟩ := hfollows
    rw [State.run_of_leads hleads, State.run_of_error herror]

/-- A reduction has a result if its lines come to their end. -/
theorem Buffer.reduce_of_run {setting : Setting} {file : String} {attributes : AttributeSet}
    {b : Buffer} {lines : List Line} {c : Context}
    (h : (Loop.start setting file attributes b).state.run setting = .ok (lines, c)) :
    b.reduce setting file attributes = .ok (Result.ofRun setting file lines c) := by
  rw [reduce, Loop.run_eq, h]
  rfl

/-- A reduction has no result if its lines are interrupted. -/
theorem Buffer.reduce_of_run_error {setting : Setting} {file : String} {attributes : AttributeSet}
    {b : Buffer} {i : Interruption}
    (h : (Loop.start setting file attributes b).state.run setting = .error i) :
    b.reduce setting file attributes = .error i := by
  rw [reduce, Loop.run_eq, h]
  rfl

/-- A reduction has a result if its lines are computed to come to their end. -/
theorem Buffer.reduce_of_runWithin {setting : Setting} {file : String} {attributes : AttributeSet}
    {b : Buffer} (bound : Nat) {lines : List Line} {c : Context}
    (h : (Loop.start setting file attributes b).state.runWithin setting bound = some (lines, c)) :
    b.reduce setting file attributes = .ok (Result.ofRun setting file lines c) :=
  reduce_of_run (State.run_of_runWithin bound h)

end Transclude
