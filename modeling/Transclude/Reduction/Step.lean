import Transclude.Reduction.Context

/-!
# One step of a reduction, line by line

A reduction seen from its lines holds the lines it has emitted and the lines that are still to be
read, and has no index into either. A step takes the first line that is still to be read. It emits
the line, puts other lines in its place to be read next, or drops it, alone or with the block that
it opens.

## Main definitions

* `State`      : the point that a reduction has reached.
* `State.step` : the point after the next line.

## Main statements

* `State.rule_of_onLine` : every step follows one of the rules of `State.Rule`.
* `State.error_of_step`  : where a step is interrupted.
-/

namespace Transclude

open Transclude.Text

/-- The point that a reduction has reached: the lines emitted and those still to be read. -/
structure State extends Context where
  emitted : Array Line := #[]
  pending : List Line
  deriving DecidableEq, Repr

namespace State

/-- The state with another context. -/
def withContext (s : State) (c : Context) : State := { s with toContext := c }

/-- The state with a line emitted, and the given lines still to be read. -/
def emit (s : State) (line : Line) (pending : List Line) : State :=
  { s with emitted := s.emitted.push line, pending := pending }

/-- The state with the given lines still to be read. -/
def await (s : State) (pending : List Line) : State := { s with pending := pending }

/-- The state after an include directive: the lines it stands for are read next. -/
def onInclude (setting : Setting) (s : State) (line : Line) (rest : List Line) (d : Include) :
    Except Interruption State :=
  (s.resolve setting d line.origin).map fun (lines, c) => (s.withContext c).await (lines ++ rest)

/-- The state after an `endif`, which is emitted only if conditionals are preserved. -/
def onClosing (setting : Setting) (s : State) (line : Line) (rest : List Line) (d : Closing) :
    State :=
  let s := s.withContext (s.afterClosing d line.origin)
  if setting.options.preserveConditionals.meaning then s.emit line rest else s.await rest

/-- The problems of a skipped block, each with the origin of its line. -/
def problemsIn (lines : List Line) (problems : List (Nat × String)) : List (String × Origin) :=
  problems.filterMap fun (n, message) => lines[n]?.map fun line => (message, line.origin)

/-- The state after a block that is left out: it is dropped up to its `endif`, or everything is if
there is none. -/
def skip (s : State) (line : Line) (rest : List Line) (d : Opening) : State :=
  let found := BlockEnd.find d.target rest
  let c := s.reportAll (problemsIn rest found.problems)
  match found.length with
  | some n => (s.withContext c).await (rest.drop n)
  | none => (s.withContext (c.report (Context.unterminated d.raw) line.origin)).await []

/-- The state after an opening conditional of which only the content is to stay, given whether its
condition is true. -/
def onJudged (s : State) (line : Line) (rest : List Line) (d : Opening) (active : Bool) : State :=
  match active, d.inlineText? with
  | true, some text => s.await (⟨text, line.origin⟩ :: rest)
  | false, some _ => s.await rest
  | true, none => (s.withContext (s.enter d true line.origin)).await rest
  | false, none => s.skip line rest d

/-- The state after an opening conditional of which only the content is to stay. -/
def onOpening (setting : Setting) (s : State) (line : Line) (rest : List Line) (d : Opening) :
    Except Interruption State :=
  (s.judge setting d line.origin).map fun (active, c) =>
    (s.withContext c).onJudged line rest d active

/-- The state after an opening conditional that is to stay itself. With an include as its text it is
put into block form, so that the include is read between its markers. -/
def onPreserved (setting : Setting) (s : State) (line : Line) (rest : List Line) (d : Opening) :
    Except Interruption State :=
  match d.inlineText? with
  | some text =>
    .ok (if isInclude text then s.await (d.blockForm text line.origin ++ rest)
      else s.emit line rest)
  | none =>
    (s.judgeWithin setting d line.origin).map fun (active, c) =>
      (s.withContext (c.enter d active line.origin)).emit line rest

/-- The state after the line `line` on which `hit` was found, with `rest` after it. -/
def onHit (setting : Setting) (s : State) (line : Line) (rest : List Line) :
    Hit → Except Interruption State
  | .entry e => .ok ((s.withContext (s.afterEntry e)).emit line rest)
  | .directive (.include d) => s.onInclude setting line rest d
  | .directive (.closing d) => .ok (s.onClosing setting line rest d)
  | .directive (.opening d) =>
    if setting.options.preserveConditionals.meaning then s.onPreserved setting line rest d
    else s.onOpening setting line rest d

/-- The state with another verbatim block. -/
def withVerbatim (s : State) (verbatim : Verbatim) : State :=
  s.withContext { s.toContext with verbatim := verbatim }

/-- The state after the line `line`, with `rest` after it. -/
def onLine (setting : Setting) (s : State) (line : Line) (rest : List Line) :
    Except Interruption State :=
  match Hit.ofLine? s.verbatim line.text with
  | (verbatim, none) => .ok ((s.withVerbatim verbatim).emit line rest)
  | (verbatim, some hit) => (s.withVerbatim verbatim).onHit setting line rest hit

/-- The state after the next line, if a line is left to be read. -/
def step (setting : Setting) (s : State) : Except Interruption (Option State) :=
  match s.pending with
  | [] => .ok none
  | line :: rest => (s.onLine setting line rest).map some

theorem step_of_nil {setting : Setting} {s : State} (h : s.pending = []) :
    s.step setting = .ok none := by
  rw [step, h]

theorem step_of_cons {setting : Setting} {s : State} {line : Line} {rest : List Line}
    (h : s.pending = line :: rest) : s.step setting = (s.onLine setting line rest).map some := by
  rw [step, h]

/-- Where there is no next step, no line is left to be read. -/
theorem pending_of_end {setting : Setting} {s : State} (h : s.step setting = .ok none) : s.pending = [] := by
  unfold step at h
  split at h
  · assumption
  · obtain ⟨_, _, hsome⟩ := eq_ok_of_map h
    cases hsome

/-- A step takes the first line that is still to be read. -/
theorem onLine_of_step {setting : Setting} {s t : State} (h : s.step setting = .ok (some t)) :
    ∃ line rest, s.pending = line :: rest ∧ s.onLine setting line rest = .ok t := by
  unfold step at h
  split at h
  · cases h
  · rename_i line rest hpending
    obtain ⟨t', honLine, ht⟩ := eq_ok_of_map h
    cases ht
    exact ⟨line, rest, hpending, honLine⟩

/-- A block that is left out is dropped up to its `endif`. -/
theorem skip_of_some {s : State} {line : Line} {rest : List Line} {d : Opening} {n : Nat}
    (h : (BlockEnd.find d.target rest).length = some n) :
    s.skip line rest d = (s.withContext (s.reportAll
      (problemsIn rest (BlockEnd.find d.target rest).problems))).await (rest.drop n) := by
  simp only [skip, h]

/-- A block that is left out is dropped with all that is left if no `endif` ends it. -/
theorem skip_of_none {s : State} {line : Line} {rest : List Line} {d : Opening}
    (h : (BlockEnd.find d.target rest).length = none) :
    s.skip line rest d = (s.withContext ((s.reportAll
      (problemsIn rest (BlockEnd.find d.target rest).problems)).report
        (Context.unterminated d.raw) line.origin)).await [] := by
  simp only [skip, h]

/-- Every problem of a skipped block is one with a line of it. -/
theorem problemsIn_eq_nil_iff {lines : List Line} {problems : List (Nat × String)}
    (h : ∀ p ∈ problems, p.1 < lines.length) : problemsIn lines problems = [] ↔ problems = [] := by
  cases problems with
  | nil => exact iff_of_true rfl rfl
  | cons p problems =>
    have hp := h p List.mem_cons_self
    simp [problemsIn, List.getElem?_eq_getElem hp]

/-- A block that is left out is reported on, and nothing else changes but the lines still to be
read. -/
theorem skip_eq (s : State) (line : Line) (rest : List Line) (d : Opening) :
    (s.skip line rest d).emitted = s.emitted ∧
      ∃ journal, (s.skip line rest d).toContext = { s.toContext with journal := journal } ∧
        journal.consulted = s.journal.consulted := by
  obtain ⟨journal, heq, hjournal⟩ :=
    s.toContext.reportAll_eq (problemsIn rest (BlockEnd.find d.target rest).problems)
  unfold skip
  dsimp only
  rw [heq]
  split
  · exact ⟨rfl, journal, rfl, hjournal⟩
  · exact ⟨rfl, _, rfl, (Context.consulted_report _ _ _).trans hjournal⟩

/-- The lines still to be read after a block that is left out are the last of those before it. -/
theorem pending_skip_suffix (s : State) (line : Line) (rest : List Line) (d : Opening) :
    (s.skip line rest d).pending <:+ rest := by
  unfold skip
  dsimp only
  split
  · exact List.drop_suffix _ _
  · exact List.nil_suffix

/-- A line without a find is emitted. -/
theorem onLine_of_none {setting : Setting} {s : State} {line : Line} {rest : List Line}
    {verbatim : Verbatim} (h : Hit.ofLine? s.verbatim line.text = (verbatim, none)) :
    s.onLine setting line rest = .ok ((s.withVerbatim verbatim).emit line rest) := by
  rw [onLine, h]

/-- A line with a find is acted on. -/
theorem onLine_of_some {setting : Setting} {s : State} {line : Line} {rest : List Line} {hit : Hit}
    (h : Hit.ofLine? s.verbatim line.text = (s.verbatim, some hit)) :
    s.onLine setting line rest = s.onHit setting line rest hit := by
  rw [onLine, h]
  rfl

/-- A step depends on little of the setting: whether conditionals are preserved, how conditions are
answered, and what takes the place of an include. -/
theorem step_congr {setting setting' : Setting} {s : State}
    (hpreserved : setting'.options.preserveConditionals = setting.options.preserveConditionals)
    (hevaluator : setting'.evaluator = setting.evaluator)
    (hresolve : ∀ line rest d, s.pending = line :: rest →
      Directive.ofLine? (strippedEnd line.text) = some (.include d) →
        s.resolve setting' d line.origin = s.resolve setting d line.origin) :
    s.step setting' = s.step setting := by
  have hjudge : ∀ (c : Context) d origin, c.judge setting' d origin = c.judge setting d origin := by
    intro c d origin
    rw [Context.judge, Context.judge, hevaluator]
  unfold step
  split
  · rfl
  rename_i line rest hpending
  cases hfound : Hit.ofLine? s.verbatim line.text with
  | mk verbatim hit =>
    cases hit with
    | none => rw [onLine_of_none hfound, onLine_of_none hfound]
    | some hit =>
      obtain rfl := Hit.verbatim_of_ofLine? hfound
      rw [onLine_of_some hfound, onLine_of_some hfound]
      rcases hit with (d | d | d) | e
      · have hinclude := Hit.directive_of_ofLine? (congrArg Prod.snd hfound)
        simp only [onHit, onInclude, hresolve line rest d hpending hinclude]
      · simp only [onHit, onOpening, onPreserved, Context.judgeWithin, hjudge, hpreserved]
      · simp only [onHit, onClosing, hpreserved]
      · rfl

/-! ## Steps over directives -/

section Directives

variable {setting : Setting} {s : State} {line : Line} {rest : List Line}

/-- A directive is acted on. -/
theorem step_of_directive (setting : Setting) {d : Directive} (hpending : s.pending = line :: rest)
    (hd : Directive.ofLine? (strippedEnd line.text) = some d) :
    s.step setting = (s.onHit setting line rest (.directive d)).map some := by
  rw [step_of_cons hpending, onLine_of_some (Hit.ofLine?_of_directive _ hd)]

/-- The lines of an include take its place. -/
theorem step_of_include (setting : Setting) {d : Include} (hpending : s.pending = line :: rest)
    (hd : Directive.ofLine? (strippedEnd line.text) = some (.include d)) :
    s.step setting = ((s.resolve setting d line.origin).map fun (lines, c) =>
      (s.withContext c).await (lines ++ rest)).map some :=
  step_of_directive setting hpending hd

section Preserved

variable (hpreserved : setting.options.preserveConditionals.meaning = true)
include hpreserved

/-- The end of a block that is preserved is emitted. -/
theorem step_of_closing_kept {d : Closing} (hpending : s.pending = line :: rest)
    (hd : Directive.ofLine? (strippedEnd line.text) = some (.closing d)) :
    s.step setting =
      .ok (some ((s.withContext (s.afterClosing d line.origin)).emit line rest)) := by
  rw [step_of_directive setting hpending hd, onHit, onClosing, if_pos hpreserved]
  rfl

/-- The opening of a block that is preserved is emitted. -/
theorem step_of_opening_kept {d : Opening} (hpending : s.pending = line :: rest)
    (hd : Directive.ofLine? (strippedEnd line.text) = some (.opening d))
    (hblock : d.inlineText? = none) :
    s.step setting = ((s.judgeWithin setting d line.origin).map fun (active, c) =>
      (s.withContext (c.enter d active line.origin)).emit line rest).map some := by
  rw [step_of_directive setting hpending hd, onHit, if_pos hpreserved, onPreserved, hblock]

/-- A conditional that is preserved is emitted with its text, if that is no include. -/
theorem step_of_inline_kept {d : Opening} {text : String} (hpending : s.pending = line :: rest)
    (hd : Directive.ofLine? (strippedEnd line.text) = some (.opening d))
    (hinline : d.inlineText? = some text) (hother : isInclude text = false) :
    s.step setting = .ok (some (s.emit line rest)) := by
  rw [step_of_directive setting hpending hd, onHit, if_pos hpreserved, onPreserved, hinline]
  dsimp only
  rw [if_neg (ne_true_of_eq_false hother)]
  rfl

/-- A conditional that is preserved is put into block form, if its text is an include. -/
theorem step_of_inline_rewritten {d : Opening} {text : String} (hpending : s.pending = line :: rest)
    (hd : Directive.ofLine? (strippedEnd line.text) = some (.opening d))
    (hinline : d.inlineText? = some text) (hinclude : isInclude text = true) :
    s.step setting = .ok (some (s.await (d.blockForm text line.origin ++ rest))) := by
  rw [step_of_directive setting hpending hd, onHit, if_pos hpreserved, onPreserved, hinline]
  dsimp only
  rw [if_pos hinclude]
  rfl

end Preserved

section Normal

variable (hnormal : setting.options.preserveConditionals.meaning = false)
include hnormal

/-- The end of a block that is not preserved is dropped. -/
theorem step_of_closing_dropped {d : Closing} (hpending : s.pending = line :: rest)
    (hd : Directive.ofLine? (strippedEnd line.text) = some (.closing d)) :
    s.step setting =
      .ok (some ((s.withContext (s.afterClosing d line.origin)).await rest)) := by
  rw [step_of_directive setting hpending hd, onHit, onClosing, hnormal]
  rfl

/-- A conditional that is not preserved is decided. -/
theorem step_of_opening_judged {d : Opening} (hpending : s.pending = line :: rest)
    (hd : Directive.ofLine? (strippedEnd line.text) = some (.opening d)) :
    s.step setting = ((s.judge setting d line.origin).map fun (active, c) =>
      (s.withContext c).onJudged line rest d active).map some := by
  rw [step_of_directive setting hpending hd, onHit, hnormal]
  rfl

end Normal

end Directives

/-! ## What a step can do -/

/-- The states to which a line may lead, one rule for each kind of line and each decision. -/
inductive Rule (setting : Setting) (s : State) (line : Line) (rest : List Line) : State → Prop
  /-- A line that is neither directive nor entry is emitted. -/
  | plain (verbatim : Verbatim) (nothing : Hit.ofLine? s.verbatim line.text = (verbatim, none)) :
    Rule setting s line rest ((s.withVerbatim verbatim).emit line rest)
  /-- An attribute entry is emitted. -/
  | entry (e : AttributeEntry)
    (found : Hit.ofLine? s.verbatim line.text = (s.verbatim, some (.entry e))) :
    Rule setting s line rest ((s.withContext (s.afterEntry e)).emit line rest)
  /-- The lines of an include take its place. -/
  | inclusion (d : Include) (lines : List Line) (c : Context)
    (directive : Directive.ofLine? (strippedEnd line.text) = some (.include d))
    (resolved : s.resolve setting d line.origin = .ok (lines, c)) :
    Rule setting s line rest ((s.withContext c).await (lines ++ rest))
  /-- The end of a block is dropped with its opening. -/
  | closingDropped (d : Closing)
    (directive : Directive.ofLine? (strippedEnd line.text) = some (.closing d))
    (normal : setting.options.preserveConditionals.meaning = false) :
    Rule setting s line rest ((s.withContext (s.afterClosing d line.origin)).await rest)
  /-- The end of a block that stays is emitted. -/
  | closingKept (d : Closing)
    (directive : Directive.ofLine? (strippedEnd line.text) = some (.closing d))
    (preserved : setting.options.preserveConditionals.meaning = true) :
    Rule setting s line rest ((s.withContext (s.afterClosing d line.origin)).emit line rest)
  /-- The text of a true conditional takes its place. -/
  | inlineTrue (d : Opening) (text : String) (c : Context)
    (directive : Directive.ofLine? (strippedEnd line.text) = some (.opening d))
    (normal : setting.options.preserveConditionals.meaning = false)
    (inline : d.inlineText? = some text) (judged : s.judge setting d line.origin = .ok (true, c)) :
    Rule setting s line rest ((s.withContext c).await (⟨text, line.origin⟩ :: rest))
  /-- A false conditional with a text is dropped. -/
  | inlineFalse (d : Opening) (text : String) (c : Context)
    (directive : Directive.ofLine? (strippedEnd line.text) = some (.opening d))
    (normal : setting.options.preserveConditionals.meaning = false)
    (inline : d.inlineText? = some text) (judged : s.judge setting d line.origin = .ok (false, c)) :
    Rule setting s line rest ((s.withContext c).await rest)
  /-- The opening of a true block is dropped, and its lines are read next. -/
  | blockTrue (d : Opening) (c : Context)
    (directive : Directive.ofLine? (strippedEnd line.text) = some (.opening d))
    (normal : setting.options.preserveConditionals.meaning = false)
    (block : d.inlineText? = none) (judged : s.judge setting d line.origin = .ok (true, c)) :
    Rule setting s line rest ((s.withContext (c.enter d true line.origin)).await rest)
  /-- A false block is dropped. -/
  | blockFalse (d : Opening) (c : Context)
    (directive : Directive.ofLine? (strippedEnd line.text) = some (.opening d))
    (normal : setting.options.preserveConditionals.meaning = false)
    (block : d.inlineText? = none) (judged : s.judge setting d line.origin = .ok (false, c)) :
    Rule setting s line rest ((s.withContext c).skip line rest d)
  /-- A conditional that stays is put into block form if its text is an include. -/
  | inlineRewritten (d : Opening) (text : String)
    (directive : Directive.ofLine? (strippedEnd line.text) = some (.opening d))
    (preserved : setting.options.preserveConditionals.meaning = true)
    (inline : d.inlineText? = some text) (included : isInclude text = true) :
    Rule setting s line rest (s.await (d.blockForm text line.origin ++ rest))
  /-- A conditional that stays is emitted with its text if that is no include. -/
  | inlineKept (d : Opening) (text : String)
    (directive : Directive.ofLine? (strippedEnd line.text) = some (.opening d))
    (preserved : setting.options.preserveConditionals.meaning = true)
    (inline : d.inlineText? = some text) (other : isInclude text = false) :
    Rule setting s line rest (s.emit line rest)
  /-- The opening of a block that stays is emitted. -/
  | blockKept (d : Opening) (active : Bool) (c : Context)
    (directive : Directive.ofLine? (strippedEnd line.text) = some (.opening d))
    (preserved : setting.options.preserveConditionals.meaning = true)
    (block : d.inlineText? = none)
    (judged : s.judgeWithin setting d line.origin = .ok (active, c)) :
    Rule setting s line rest ((s.withContext (c.enter d active line.origin)).emit line rest)

/-- A find leads to its state by the rule for it. -/
theorem rule_of_onHit {setting : Setting} {s t : State} {line : Line} {rest : List Line} {hit : Hit}
    (hfound : Hit.ofLine? s.verbatim line.text = (s.verbatim, some hit))
    (h : s.onHit setting line rest hit = .ok t) : Rule setting s line rest t := by
  have hdirective : ∀ d, hit = .directive d →
      Directive.ofLine? (strippedEnd line.text) = some d := by
    rintro d rfl
    exact Hit.directive_of_ofLine? (by rw [hfound])
  unfold onHit at h
  split at h
  · cases h
    exact .entry _ hfound
  · obtain ⟨⟨lines, c⟩, hresolved, rfl⟩ := eq_ok_of_map h
    exact .inclusion _ lines c (hdirective _ rfl) hresolved
  · rename_i d
    cases h
    unfold onClosing
    dsimp only
    split
    · rename_i hpreserved
      exact .closingKept d (hdirective _ rfl) hpreserved
    · rename_i hpreserved
      exact .closingDropped d (hdirective _ rfl) (eq_false_of_ne_true hpreserved)
  · rename_i d
    have hd := hdirective _ rfl
    split at h
    · rename_i hpreserved
      unfold onPreserved at h
      split at h
      · rename_i text hinline
        cases h
        split
        · rename_i hinclude
          exact .inlineRewritten d text hd hpreserved hinline hinclude
        · rename_i hother
          exact .inlineKept d text hd hpreserved hinline (eq_false_of_ne_true hother)
      · rename_i hblock
        obtain ⟨⟨active, c⟩, hjudged, rfl⟩ := eq_ok_of_map h
        exact .blockKept d active c hd hpreserved hblock hjudged
    · rename_i hpreserved
      have hnormal := eq_false_of_ne_true hpreserved
      obtain ⟨⟨active, c⟩, hjudged, rfl⟩ := eq_ok_of_map h
      dsimp only [onJudged]
      cases hinline : d.inlineText? with
      | some text =>
        cases active with
        | true => exact .inlineTrue d text c hd hnormal hinline hjudged
        | false => exact .inlineFalse d text c hd hnormal hinline hjudged
      | none =>
        cases active with
        | true => exact .blockTrue d c hd hnormal hinline hjudged
        | false => exact .blockFalse d c hd hnormal hinline hjudged

/-- Every step follows one of the rules. -/
theorem rule_of_onLine {setting : Setting} {s t : State} {line : Line} {rest : List Line}
    (h : s.onLine setting line rest = .ok t) : Rule setting s line rest t := by
  unfold onLine at h
  split at h
  · rename_i verbatim hnothing
    cases h
    exact .plain verbatim hnothing
  · rename_i verbatim hit hfound
    obtain rfl := Hit.verbatim_of_ofLine? hfound
    exact rule_of_onHit hfound h

/-- A step is interrupted only where the file of an include or a condition is read. -/
theorem error_of_step {setting : Setting} {s : State} {i : Interruption}
    (h : s.step setting = .error i) :
    ∃ line rest, s.pending = line :: rest ∧
      ((∃ d, Directive.ofLine? (strippedEnd line.text) = some (.include d) ∧
          s.resolve setting d line.origin = .error i) ∨
        ∃ d, Directive.ofLine? (strippedEnd line.text) = some (.opening d) ∧
          (setting.options.preserveConditionals.meaning = true →
            d.inlineText? = none ∧ s.active = true) ∧
          s.judge setting d line.origin = .error i) := by
  unfold step at h
  split at h
  · cases h
  rename_i line rest hpending
  refine ⟨line, rest, hpending, ?_⟩
  have honLine := eq_error_of_map h
  unfold onLine at honLine
  split at honLine
  · cases honLine
  rename_i verbatim hit hfound
  obtain rfl := Hit.verbatim_of_ofLine? hfound
  unfold onHit at honLine
  split at honLine
  · cases honLine
  · rename_i d
    exact .inl ⟨d, Hit.directive_of_ofLine? (by rw [hfound]), eq_error_of_map honLine⟩
  · cases honLine
  · rename_i d
    refine .inr ⟨d, Hit.directive_of_ofLine? (by rw [hfound]), ?_⟩
    split at honLine
    · unfold onPreserved at honLine
      split at honLine
      · cases honLine
      · rename_i hblock
        have hjudged := eq_error_of_map honLine
        unfold Context.judgeWithin at hjudged
        split at hjudged
        · rename_i hactive
          exact ⟨fun _ => ⟨hblock, hactive⟩, hjudged⟩
        · cases hjudged
    · rename_i hnormal
      exact ⟨fun hpreserved => absurd hpreserved hnormal, eq_error_of_map honLine⟩

end State

end Transclude
