import Transclude.Include.Resolution

/-!
# What a reduction knows

Besides its lines a reduction holds the attributes, the verbatim block that it is in, the open
conditional blocks, the directories in which files read their includes, and what happened so far.
What a directive does to these does not depend on how the lines are kept.

## Main definitions

* `Context`         : what a reduction knows.
* `Context.judge`   : whether a condition is true.
* `Context.resolve` : the lines that take the place of an include.
* `Context.finish`  : the context after the blocks that were never ended are reported.
-/

namespace Transclude

/-- A mapped result that is there comes from one that is there. -/
theorem eq_ok_of_map {ε α β : Type} {x : Except ε α} {f : α → β} {b : β}
    (h : x.map f = .ok b) : ∃ a, x = .ok a ∧ f a = b := by
  cases x with
  | error e => cases h
  | ok a => cases h; exact ⟨a, rfl, rfl⟩

/-- A result that is computed to be there is there. -/
theorem eq_ok_of_toOption {ε α : Type} {x : Except ε α} {a : α} (h : x.toOption = some a) :
    x = .ok a := by
  cases x with
  | error e => cases h
  | ok b => cases h; rfl

/-- A mapped failure is the failure. -/
theorem eq_error_of_map {ε α β : Type} {x : Except ε α} {f : α → β} {e : ε}
    (h : x.map f = .error e) : x = .error e := by
  cases x with
  | error e' => cases h; rfl
  | ok a => cases h

/-- A result that is there after another comes from one that is there. -/
theorem eq_ok_of_bind {ε α β : Type} {x : Except ε α} {f : α → Except ε β} {b : β}
    (h : x >>= f = .ok b) : ∃ a, x = .ok a ∧ f a = .ok b := by
  cases x with
  | error e => cases h
  | ok a => exact ⟨a, rfl, h⟩

/-- A result that is there is left as it is where failures are mapped. -/
theorem mapError_ok {ε ε' α : Type} (f : ε → ε') (a : α) :
    (Except.ok a : Except ε α).mapError f = .ok a := rfl

/-- What a reduction knows: the attributes, the verbatim block that the lines read leave open, the
open conditional blocks, innermost first, the directories in which files read their includes, and
what happened so far. -/
structure Context where
  attributes : AttributeSet
  verbatim : Verbatim := none
  frames : List Frame := []
  directories : Table String := []
  journal : Journal := #[]
  deriving DecidableEq, Repr

/-- The text of a conditional that is complete in one line. -/
def Opening.inlineText? : Opening → Option String
  | .presence d => d.text
  | .comparison _ => none

/-- The lines of the block form of a conditional that is complete in one line. -/
def Opening.blockForm (d : Opening) (text : String) (origin : Origin) : List Line :=
  [⟨s!"{d.keyword}::{d.target}[]", origin⟩, ⟨text, origin⟩, ⟨s!"endif::{d.target}[]", origin⟩]

/-- The frame of a block. -/
def Opening.frame (d : Opening) (active : Bool) (origin : Origin) : Frame :=
  ⟨d.raw, d.target, active, origin⟩

/-- Whether a text is an include directive. -/
def isInclude (text : String) : Bool :=
  match Directive.ofLine? text with
  | some (.include _) => true
  | _ => false

namespace Context

/-- The context with something added to the journal. -/
def log (c : Context) (event : Event) : Context := { c with journal := c.journal.push event }

/-- The context with a structural problem reported. -/
def report (c : Context) (message : String) (origin : Origin) : Context :=
  c.log (.found (.structural message origin))

/-- The context with structural problems reported in turn. -/
def reportAll (c : Context) (problems : List (String × Origin)) : Context :=
  problems.foldl (fun c (message, origin) => c.report message origin) c

/-- Whether attribute entries count where the reduction is. -/
def active (c : Context) : Bool := (c.frames.head?.map (·.active)).getD true

/-- The wording of a block that no `endif` ends. -/
def unterminated (raw : String) : String :=
  s!"detected unterminated preprocessor conditional directive: {raw}"

/-- Whether a condition is true, and the context after it was decided. A condition without a truth
value is reported and counts as false, unless a number in it cannot be read. -/
def judge (setting : Setting) (c : Context) (d : Opening) (origin : Origin) :
    Except Interruption (Bool × Context) :=
  match d.decide setting.evaluator c.attributes with
  | .ok answer => .ok (answer, c)
  | .error (.numeral e) => .error ⟨.numeral e, c.journal⟩
  | .error e =>
    let severity := if e.recoverable then Severity.warning else .fatal
    .ok (false, c.log (.found ⟨severity, e.message, origin, .evaluation⟩))

/-- The context after an attribute entry. -/
def afterEntry (c : Context) (e : AttributeEntry) : Context :=
  if c.active then
    match c.attributes.afterEntry? e with
    | some attributes => { c with attributes := attributes }
    | none => c.log (.remark .reduction s!"attribute {e.name} is locked; ignoring {e.raw}")
  else c.log (.remark .reduction s!"inside an inactive branch; ignoring {e.raw}")

/-- The lines that take the place of an include, and the context after it. -/
def resolve (setting : Setting) (c : Context) (d : Include) (origin : Origin) :
    Except Interruption (List Line × Context) :=
  match Resolution.ofDirective setting c.directories c.attributes d origin with
  | .error i => .error ⟨i.abort, c.journal ++ i.journal⟩
  | .ok r =>
    .ok (r.lines, { c with directories := r.directories, journal := c.journal ++ r.events })

/-- The context after an `endif`. -/
def afterClosing (c : Context) (d : Closing) (origin : Origin) : Context :=
  match Frame.close c.frames d with
  | .ok frames => { c with frames := frames }
  | .error problem => c.report problem origin

/-- The context inside a block. -/
def enter (c : Context) (d : Opening) (active : Bool) (origin : Origin) : Context :=
  { c with frames := d.frame active origin :: c.frames }

/-- Whether entries count in a block that is to stay, and the context after that was decided. A
block inside one in which they do not count is not decided. -/
def judgeWithin (setting : Setting) (c : Context) (d : Opening) (origin : Origin) :
    Except Interruption (Bool × Context) :=
  if c.active then c.judge setting d origin else .ok (false, c)

/-- The context after the blocks that were never ended are reported, the outermost first. -/
def finish (c : Context) : Context :=
  c.reportAll (c.frames.reverse.map fun frame => (unterminated frame.raw, frame.origin))

/-! ## What stays as it is -/

variable {setting : Setting} {c after : Context} {d : Opening} {origin : Origin} {active : Bool}

/-- A report consults nothing. -/
@[simp] theorem consulted_report (c : Context) (message : String) (origin : Origin) :
    (c.report message origin).journal.consulted = c.journal.consulted := by
  simp [report, log, Event.path?]

/-- Reports change the journal only, and consult nothing. -/
theorem reportAll_eq (c : Context) (problems : List (String × Origin)) :
    ∃ journal, c.reportAll problems = { c with journal := journal } ∧
      journal.consulted = c.journal.consulted := by
  induction problems generalizing c with
  | nil => exact ⟨c.journal, rfl, rfl⟩
  | cons problem problems ih =>
    obtain ⟨journal, hjournal, hconsulted⟩ := ih (c.report problem.1 problem.2)
    exact ⟨journal, hjournal, by rw [hconsulted, consulted_report]⟩

/-- A decision changes the journal only, and consults nothing. -/
theorem eq_of_judge (h : c.judge setting d origin = .ok (active, after)) :
    ∃ journal, after = { c with journal := journal } ∧
      journal.consulted = c.journal.consulted := by
  unfold judge at h
  split at h
  · cases h
    exact ⟨c.journal, rfl, rfl⟩
  · cases h
  · cases h
    exact ⟨_, rfl, by simp [Event.path?]⟩

/-- A decision does not come to its end only if a number in the condition cannot be read. -/
theorem eq_of_judge_error {i : Interruption} (h : c.judge setting d origin = .error i) :
    ∃ e, i = ⟨.numeral e, c.journal⟩ := by
  unfold judge at h
  split at h
  · cases h
  · rename_i e _
    cases h
    exact ⟨e, rfl⟩
  · cases h

/-- A decision within open blocks changes the journal only, and consults nothing. -/
theorem eq_of_judgeWithin (h : c.judgeWithin setting d origin = .ok (active, after)) :
    ∃ journal, after = { c with journal := journal } ∧
      journal.consulted = c.journal.consulted := by
  unfold judgeWithin at h
  split at h
  · exact eq_of_judge h
  · cases h
    exact ⟨c.journal, rfl, rfl⟩

/-- An include changes the directories and the journal only. -/
theorem eq_of_resolve {d : Include} {lines : List Line}
    (h : c.resolve setting d origin = .ok (lines, after)) :
    ∃ directories journal, after = { c with directories := directories, journal := journal } := by
  unfold resolve at h
  split at h
  · cases h
  · cases h
    exact ⟨_, _, rfl⟩

/-- An `endif` changes the open blocks or the journal, and consults nothing. -/
theorem afterClosing_eq (c : Context) (d : Closing) (origin : Origin) :
    ∃ frames journal,
      c.afterClosing d origin = { c with frames := frames, journal := journal } ∧
        journal.consulted = c.journal.consulted := by
  unfold afterClosing
  split
  · exact ⟨_, c.journal, rfl, rfl⟩
  · exact ⟨c.frames, _, rfl, consulted_report _ _ _⟩

/-- An attribute entry changes the attributes or the journal, and consults nothing. -/
theorem afterEntry_eq (c : Context) (e : AttributeEntry) :
    ∃ attributes journal,
      c.afterEntry e = { c with attributes := attributes, journal := journal } ∧
        journal.consulted = c.journal.consulted := by
  unfold afterEntry
  split
  · split
    · exact ⟨_, c.journal, rfl, rfl⟩
    · exact ⟨c.attributes, _, rfl, by simp [Event.remark, Event.path?]⟩
  · exact ⟨c.attributes, _, rfl, by simp [Event.remark, Event.path?]⟩

@[simp] theorem directories_afterClosing (c : Context) (d : Closing) (origin : Origin) :
    (c.afterClosing d origin).directories = c.directories := by
  obtain ⟨_, _, heq, -⟩ := c.afterClosing_eq d origin
  rw [heq]

@[simp] theorem directories_afterEntry (c : Context) (e : AttributeEntry) :
    (c.afterEntry e).directories = c.directories := by
  obtain ⟨_, _, heq, -⟩ := c.afterEntry_eq e
  rw [heq]

/-! ## Blocks that are open -/

/-- If all open blocks are true, entries count. -/
theorem active_of_frames (h : ∀ f ∈ c.frames, f.active = true) : c.active = true := by
  unfold Context.active
  cases hframes : c.frames with
  | nil => rfl
  | cons f frames => exact h f (by simp [hframes])

/-- Where entries count, an entry changes the attributes, or is noted in the log, which is no
diagnostic. -/
theorem afterEntry_of_active (h : c.active = true) (e : AttributeEntry) :
    ∃ journal, journal.diagnostics = c.journal.diagnostics ∧
      c.afterEntry e = { c with
        attributes := (c.attributes.afterEntry? e).getD c.attributes, journal := journal } := by
  unfold afterEntry
  rw [if_pos h]
  cases hentry : c.attributes.afterEntry? e with
  | some attributes => exact ⟨c.journal, rfl, rfl⟩
  | none => exact ⟨_, by simp [Event.remark, Event.diagnostic?], rfl⟩

/-- An `endif` opens no block. -/
theorem mem_frames_afterClosing {d : Closing} {f : Frame}
    (hf : f ∈ (c.afterClosing d origin).frames) : f ∈ c.frames := by
  unfold afterClosing at hf
  split at hf
  · rename_i hclose
    exact (Frame.suffix_of_close hclose).mem hf
  · exact hf

/-! ## What is found wrong -/

/-- A report is one more diagnostic. -/
@[simp] theorem diagnostics_report (c : Context) (message : String) (origin : Origin) :
    (c.report message origin).journal.diagnostics =
      c.journal.diagnostics ++ [.structural message origin] := by
  simp [report, log, Event.diagnostic?]

/-- Reports are as many more diagnostics. -/
theorem diagnostics_reportAll (c : Context) (problems : List (String × Origin)) :
    (c.reportAll problems).journal.diagnostics =
      c.journal.diagnostics ++ problems.map fun (message, origin) => .structural message origin := by
  induction problems generalizing c with
  | nil => simp [reportAll]
  | cons problem problems ih =>
    have hrest := ih (c.report problem.1 problem.2)
    rw [diagnostics_report, List.append_assoc] at hrest
    exact hrest

/-- A decision finds at most that the condition has no truth value. -/
theorem diagnostics_of_judge (h : c.judge setting d origin = .ok (active, after)) :
    ∃ found : Option Diagnostic,
      after.journal.diagnostics = c.journal.diagnostics ++ found.toList ∧
        ∀ p ∈ found, p.origin = origin ∧ p.category = .evaluation := by
  unfold judge at h
  split at h
  · cases h
    exact ⟨none, by simp, fun _ hp => nomatch hp⟩
  · cases h
  · rename_i e _ _
    cases h
    refine ⟨some ⟨if e.recoverable then .warning else .fatal, e.message, origin, .evaluation⟩,
      Journal.diagnostics_push _ _, ?_⟩
    rintro p ⟨⟩
    exact ⟨rfl, rfl⟩

/-- An attribute entry is never wrong. -/
@[simp] theorem diagnostics_afterEntry (c : Context) (e : AttributeEntry) :
    (c.afterEntry e).journal.diagnostics = c.journal.diagnostics := by
  unfold afterEntry
  split
  · split
    · rfl
    · simp [log, Event.remark, Event.diagnostic?]
  · simp [log, Event.remark, Event.diagnostic?]

/-- An attribute entry leaves the open blocks as they are. -/
@[simp] theorem frames_afterEntry (c : Context) (e : AttributeEntry) :
    (c.afterEntry e).frames = c.frames := by
  obtain ⟨_, _, heq, -⟩ := c.afterEntry_eq e
  rw [heq]

end Context

end Transclude
