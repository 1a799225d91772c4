import Transclude.Reduction.Loop
import Transclude.Reduction.Measure

/-!
# The loop follows the lines

A loop over a buffer and a reduction line by line describe the same reduction: the lines before the
cursor are those emitted, and the others are still to be read. One turn of the loop is as many steps
as it passes lines without a find, and one more for the line of its find.

## Main definitions

* `State.After` : the state after one line.
* `State.Leads` : a state reached by any number of lines.
* `Loop.state`  : the lines that a loop has emitted, and those it has still to read.
* `State.loop`  : the loop whose cursor stands after the lines emitted.

## Main statements

* `Loop.follows`      : what a turn does, in steps.
* `Loop.found_of_step` : what a turn has found.
* `Loop.step_inRange` : no turn uses an index that is not in the buffer.
* `Loop.pendingLt_of_step` : a turn goes down in the order on lists of lines.
-/

namespace Transclude

namespace State

variable {setting : Setting} {s t u : State}

/-- Whether `t` is the state after the next line of `s`. -/
def After (setting : Setting) (t s : State) : Prop := s.step setting = .ok (some t)

/-- A step that is computed to come to a state leads to it. -/
theorem after_of_toOption (h : (s.step setting).toOption = some (some t)) : After setting t s :=
  eq_ok_of_toOption h

/-- Whether some number of lines leads from one state to another. -/
inductive Leads (setting : Setting) : State → State → Prop
  | refl (s : State) : Leads setting s s
  | step {s t u : State} (after : After setting t s) (leads : Leads setting t u) : Leads setting s u

/-- Where a step follows, the steps before it are some steps. -/
theorem Leads.transGen (h : Leads setting s t) (after : After setting u t) :
    Relation.TransGen (After setting) u s := by
  induction h with
  | refl => exact .single after
  | step first _ ih => exact .tail (ih after) first

/-- There is one state after the next line. -/
theorem After.unique {t' : State} (h : After setting t s) (h' : After setting t' s) : t = t' :=
  Option.some.inj (Except.ok.inj (h.symm.trans h'))

/-- A step leads to the state after it. -/
theorem After.leads (h : After setting t s) : Leads setting s t := .step h (.refl t)

/-- Where some lines lead to a state and others on from it, all of them lead. -/
theorem Leads.trans (h : Leads setting s t) (h' : Leads setting t u) : Leads setting s u := by
  induction h with
  | refl => exact h'
  | step after _ ih => exact .step after (ih h')

/-- What every step preserves holds of all states that are reached. -/
theorem Leads.preserves {P : State → Prop} (h : Leads setting s t) (hs : P s)
    (hstep : ∀ s t, After setting t s → P s → P t) : P t := by
  induction h with
  | refl => exact hs
  | step after _ ih => exact ih (hstep _ _ after hs)

/-- Lines without a find are emitted one by one. -/
theorem leads_of_silent (setting : Setting) {before verbatim : Verbatim}
    {skipped rest : List Line} (h : Scan.Silent before skipped verbatim) (s : State)
    (hbefore : s.verbatim = before) (hpending : s.pending = skipped ++ rest) :
    Leads setting s { s.withVerbatim verbatim with
      emitted := s.emitted ++ skipped.toArray, pending := rest } := by
  -- the state is general, as every line that is emitted leads to another one
  induction h generalizing s with
  | nil state =>
    subst hbefore
    obtain ⟨c, emitted, pending⟩ := s
    simp only [List.nil_append] at hpending
    subst hpending
    simp only [Array.append_empty]
    exact .refl _
  | @cons state between after line skipped hnothing _ ih =>
    have hafter : After setting ((s.withVerbatim between).emit line (skipped ++ rest)) s := by
      rw [After, step_of_cons hpending, onLine_of_none (by rw [hbefore, hnothing])]
      rfl
    have hleads := ih ((s.withVerbatim between).emit line (skipped ++ rest)) rfl rfl
    refine .step hafter ?_
    simpa [emit, withVerbatim, withContext] using hleads

/-- A state after another follows one of the rules for the line that is taken. -/
theorem After.rule (h : After setting t s) :
    ∃ line rest, s.pending = line :: rest ∧ Rule setting s line rest t := by
  obtain ⟨line, rest, hpending, honLine⟩ := onLine_of_step h
  exact ⟨line, rest, hpending, rule_of_onLine honLine⟩

/-- A state after another has lighter lines still to be read. -/
theorem pendingLt_of_after (h : After setting t s) :
    PendingLt setting.options.maxIncludeDepth.meaning t.pending s.pending := by
  obtain ⟨line, rest, hpending, honLine⟩ := onLine_of_step h
  rw [hpending]
  exact pendingLt_of_onLine honLine

/-- Lines that lie above those of a state lie above those of all states that are reached. -/
theorem Leads.transGen_pendingLt {lines : List Line} (h : Leads setting s t)
    (hlt : PendingLt setting.options.maxIncludeDepth.meaning s.pending lines) :
    Relation.TransGen (PendingLt setting.options.maxIncludeDepth.meaning) t.pending lines := by
  induction h generalizing lines with
  | refl => exact .single hlt
  | step after _ ih => exact .tail (ih (pendingLt_of_after after)) hlt

/-- The loop whose cursor stands after the lines emitted. -/
def loop (s : State) : Loop :=
  { toContext := s.toContext
    buffer := ⟨s.emitted.toList ++ s.pending⟩
    cursor := s.emitted.size }

end State

namespace Loop

variable {setting : Setting} {l : Loop}

/-- The lines that a loop has emitted, and those it has still to read. -/
def state (l : Loop) : State :=
  { toContext := l.toContext
    emitted := (l.buffer.lines.take l.cursor).toArray
    pending := l.buffer.lines.drop l.cursor }

/-- A loop stands where its state says. -/
@[simp] theorem state_loop (s : State) : s.loop.state = s := by
  simp [state, State.loop]

/-! ## One find -/

variable {pre rest : List Line} {line : Line}

/-- Replaced lines are read next. -/
theorem splice_eq (mid post new : List Line) (hlines : l.buffer.lines = pre ++ mid ++ post) :
    l.splice pre.length (pre.length + mid.length : Nat) new =
      .ok (State.loop ⟨l.toContext, pre.toArray, new ++ post⟩) := by
  rw [splice, Buffer.replace_append new hlines]
  simp [State.loop]

/-- One line replaced. -/
theorem splice_line (new : List Line) (hlines : l.buffer.lines = pre ++ line :: rest) :
    l.splice pre.length (pre.length + 1) new =
      .ok (State.loop ⟨l.toContext, pre.toArray, new ++ rest⟩) :=
  splice_eq [line] rest new (by simp [hlines])

/-- One line replaced, in another context. -/
theorem splice_line_context (hlines : l.buffer.lines = pre ++ line :: rest) (c : Context)
    (new : List Line) :
    (l.withContext c).splice pre.length (pre.length + 1) new =
      .ok (State.loop ⟨c, pre.toArray, new ++ rest⟩) :=
  splice_line (l := l.withContext c) new hlines

/-- A line that is passed is emitted. -/
theorem pass_eq (hlines : l.buffer.lines = pre ++ line :: rest) :
    l.pass pre.length = State.loop ⟨l.toContext, pre.toArray.push line, rest⟩ := by
  obtain ⟨c, ⟨lines⟩, cursor⟩ := l
  obtain rfl : lines = pre ++ line :: rest := hlines
  simp [pass, State.loop]

/-- A line that is passed, in another context. -/
theorem pass_context (hlines : l.buffer.lines = pre ++ line :: rest) (c : Context) :
    (l.withContext c).pass pre.length = State.loop ⟨c, pre.toArray.push line, rest⟩ :=
  pass_eq (l := l.withContext c) hlines

/-- Problems with lines after the cursor line are located where these lines come from. -/
theorem located_problems (hlines : l.buffer.lines = pre ++ line :: rest)
    (problems : List (Nat × String)) (hproblems : ∀ p ∈ problems, p.1 < rest.length) :
    l.buffer.located (problems.map fun (n, message) => ((pre.length : Int) + 1 + n, message)) =
      .ok (State.problemsIn rest problems) := by
  induction problems with
  | nil => rfl
  | cons p problems ih =>
    obtain ⟨n, message⟩ := p
    have hn : n < rest.length := hproblems (n, message) (by simp)
    -- the index counts from the start of the buffer, the problem from after the cursor line
    have hget : l.buffer.get ((pre.length : Int) + 1 + n) = .ok rest[n] := by
      have hsplit : l.buffer.lines =
          (pre ++ line :: rest.take n) ++ rest[n] :: rest.drop (n + 1) := by
        simp [hlines]
      have hlength : (pre ++ line :: rest.take n).length = pre.length + 1 + n := by
        simp only [List.length_append, List.length_cons, List.length_take]
        omega
      have := Buffer.get_append hsplit
      rw [hlength] at this
      exact_mod_cast this
    have ih := ih fun p hp => hproblems p (List.mem_cons_of_mem _ hp)
    simp only [List.map_cons, Buffer.located, hget, ih, State.problemsIn, List.filterMap_cons,
      List.getElem?_eq_getElem hn, Option.map_some]
    rfl

/-- The end of a block is looked for after the cursor line. -/
theorem inBuffer_find (hlines : l.buffer.lines = pre ++ line :: rest) (target : String) :
    BlockEnd.inBuffer l.buffer pre.length target =
      .ok ((BlockEnd.find target rest).length.map fun (n : Nat) => (pre.length : Int) + n,
        (BlockEnd.find target rest).problems.map fun (n, message) =>
          ((pre.length : Int) + 1 + n, message)) := by
  have hrest : l.buffer.lines.drop (pre.length + 1) = rest := by
    simp [hlines]
  rw [BlockEnd.inBuffer, ← Int.natCast_succ, Scan.linesFrom_natCast, hrest]
  rfl

/-- A block that is left out is dropped from the lines still to be read. -/
theorem skip_eq (hlines : l.buffer.lines = pre ++ line :: rest) (d : Opening)
    (pending : List Line) :
    l.skip pre.length d line.origin =
      .ok (State.skip ⟨l.toContext, pre.toArray, pending⟩ line rest d).loop := by
  have hlocated := located_problems hlines (BlockEnd.find d.target rest).problems
    BlockEnd.index_problems_find
  unfold skip State.skip
  simp only [inBuffer_find hlines, hlocated, mapError_ok, bind, Except.bind]
  cases hlength : (BlockEnd.find d.target rest).length with
  | none =>
    -- no end was found, and all lines that are left are dropped
    have hsize : l.buffer.size = pre.length + (line :: rest).length := by
      simp [Buffer.size, hlines]
    dsimp only [Option.map_none, withContext]
    rw [hsize]
    exact splice_eq (line :: rest) [] [] (by simp [hlines])
  | some n =>
    -- the end is not past the last line, so the splice is not cut short
    have hn := BlockEnd.length_find_le hlength
    have hstop : (pre.length : Int) + n + 1 =
        (pre.length + (line :: rest.take n).length : Nat) := by
      simp only [List.length_cons, List.length_take]
      omega
    dsimp only [Option.map_some, withContext]
    rw [hstop]
    exact splice_eq (line :: rest.take n) (rest.drop n) [] (by simp [hlines])

/-- A step's outcome as that of a turn. -/
def ofStep (x : Except Interruption State) : Except Halt Loop :=
  (x.map State.loop).mapError Halt.interrupted

theorem onInclude_eq (setting : Setting) (hlines : l.buffer.lines = pre ++ line :: rest)
    (d : Include) (pending : List Line) :
    l.onInclude setting pre.length d line.origin =
      ofStep (State.onInclude setting ⟨l.toContext, pre.toArray, pending⟩ line rest d) := by
  dsimp only [onInclude, State.onInclude]
  cases Context.resolve setting l.toContext d line.origin with
  | error i => rfl
  | ok resolved => exact splice_line_context hlines resolved.2 resolved.1

theorem onClosing_eq (setting : Setting) (hlines : l.buffer.lines = pre ++ line :: rest)
    (d : Closing) (pending : List Line) :
    l.onClosing setting pre.length d line.origin =
      .ok (State.onClosing setting ⟨l.toContext, pre.toArray, pending⟩ line rest d).loop := by
  dsimp only [onClosing, State.onClosing]
  cases setting.options.preserveConditionals.meaning with
  | true => exact congrArg Except.ok (pass_context hlines _)
  | false => exact splice_line_context hlines _ []

theorem onOpening_eq (setting : Setting) (hlines : l.buffer.lines = pre ++ line :: rest)
    (d : Opening) (pending : List Line) :
    l.onOpening setting pre.length d line.origin =
      ofStep (State.onOpening setting ⟨l.toContext, pre.toArray, pending⟩ line rest d) := by
  dsimp only [onOpening, State.onOpening]
  cases Context.judge setting l.toContext d line.origin with
  | error i => rfl
  | ok judged =>
    obtain ⟨active, c⟩ := judged
    dsimp only [ofStep, Except.map, mapError_ok, State.onJudged]
    cases d.inlineText? with
    | some text => cases active <;> exact splice_line_context hlines c _
    | none =>
      cases active with
      | true => exact splice_line_context hlines _ []
      | false => exact skip_eq (l := l.withContext c) hlines d pending

theorem onPreserved_eq (setting : Setting) (hlines : l.buffer.lines = pre ++ line :: rest)
    (d : Opening) (pending : List Line) :
    l.onPreserved setting pre.length d line.origin =
      ofStep (State.onPreserved setting ⟨l.toContext, pre.toArray, pending⟩ line rest d) := by
  dsimp only [onPreserved, State.onPreserved]
  cases d.inlineText? with
  | some text =>
    dsimp only
    split
    · exact splice_line (d.blockForm text line.origin) hlines
    · exact congrArg Except.ok (pass_eq hlines)
  | none =>
    dsimp only
    cases Context.judgeWithin setting l.toContext d line.origin with
    | error i => rfl
    | ok judged => exact congrArg Except.ok (pass_context hlines _)

/-- What is done about a find is what a step does about its line. -/
theorem onHit_eq (setting : Setting) (hlines : l.buffer.lines = pre ++ line :: rest) (hit : Hit)
    (pending : List Line) :
    l.onHit setting pre.length hit =
      ofStep (State.onHit setting ⟨l.toContext, pre.toArray, pending⟩ line rest hit) := by
  unfold onHit
  rw [Buffer.get_append hlines]
  rcases hit with (d | d | d) | e
  · exact onInclude_eq setting hlines d pending
  · dsimp only [State.onHit]
    split
    · exact onPreserved_eq setting hlines d pending
    · exact onOpening_eq setting hlines d pending
  · exact onClosing_eq setting hlines d pending
  · exact congrArg Except.ok (pass_context hlines _)

/-! ## One turn -/

/-- The state in which the lines `skipped` after the cursor are emitted, and `rest` are still to be
read. -/
def past (l : Loop) (verbatim : Verbatim) (skipped rest : List Line) : State :=
  ⟨{ l.toContext with verbatim := verbatim }, (l.buffer.lines.take l.cursor ++ skipped).toArray,
    rest⟩

/-- While something is left to be read, the cursor is not past the end. -/
theorem length_take_cursor {skipped : List Line}
    (hunread : l.buffer.lines.drop l.cursor = skipped ++ line :: rest) :
    (l.buffer.lines.take l.cursor).length = l.cursor := by
  have hlength := congrArg List.length hunread
  simp only [List.length_drop, List.length_append, List.length_cons] at hlength
  rw [List.length_take]
  omega

section Unread

variable {skipped : List Line} (hunread : l.buffer.lines.drop l.cursor = skipped ++ line :: rest)
include hunread

/-- A line that is still to be read stands after the lines before the cursor and those between. -/
theorem lines_of_unread :
    l.buffer.lines = (l.buffer.lines.take l.cursor ++ skipped) ++ line :: rest := by
  rw [List.append_assoc, ← hunread, List.take_append_drop]

theorem length_before_unread :
    (l.buffer.lines.take l.cursor ++ skipped).length = l.cursor + skipped.length := by
  rw [List.length_append, length_take_cursor hunread]

end Unread

/-- A turn that finds something is the steps over the lines before it, which are emitted, and then
the step on the line where it is found. -/
theorem step_of_next (setting : Setting) {verbatim : Verbatim} {index : Int} {hit : Hit}
    (h : Scan.next l.verbatim l.cursor (l.buffer.lines.drop l.cursor) =
      (verbatim, some (index, hit))) :
    ∃ skipped line rest, l.buffer.lines.drop l.cursor = skipped ++ line :: rest ∧
      Scan.Silent l.verbatim skipped verbatim ∧
      Hit.ofLine? verbatim line.text = (verbatim, some hit) ∧
      State.Leads setting l.state (l.past verbatim skipped (line :: rest)) ∧
      l.step setting =
        (ofStep ((l.past verbatim skipped (line :: rest)).onHit setting line rest hit)).map
          .next := by
  obtain ⟨skipped, line, rest, hunread, rfl, hsilent, hhit⟩ := Scan.found_of_next h
  refine ⟨skipped, line, rest, hunread, hsilent, hhit, ?_, ?_⟩
  · have hleads := State.leads_of_silent setting hsilent l.state rfl hunread
    simpa [state, past, State.withVerbatim, State.withContext] using hleads
  · have hlines := lines_of_unread hunread
    have honHit := onHit_eq (l := l.withContext { l.toContext with verbatim := verbatim }) setting
      hlines hit (line :: rest)
    rw [length_before_unread hunread, Int.natCast_add] at honHit
    unfold step
    rw [Scan.inBuffer_natCast, h]
    exact congrArg (Except.map Turn.next) honHit

/-- A turn that is not the last has passed some lines and found something on the next one. -/
theorem found_of_step {m : Loop} (h : l.step setting = .ok (.next m)) :
    ∃ verbatim skipped line rest hit t,
      l.buffer.lines.drop l.cursor = skipped ++ line :: rest ∧
      Scan.Silent l.verbatim skipped verbatim ∧
      Hit.ofLine? verbatim line.text = (verbatim, some hit) ∧
      (l.past verbatim skipped (line :: rest)).onHit setting line rest hit = .ok t ∧
      m = t.loop := by
  cases hnext : Scan.next l.verbatim l.cursor (l.buffer.lines.drop l.cursor) with
  | mk verbatim found =>
    cases found with
    | none =>
      unfold step at h
      rw [Scan.inBuffer_natCast, hnext] at h
      cases h
    | some found =>
      obtain ⟨index, hit⟩ := found
      obtain ⟨skipped, line, rest, hunread, hsilent, hhit, -, hstep⟩ := step_of_next setting hnext
      rw [hstep] at h
      obtain ⟨m', hm, hnext⟩ := eq_ok_of_map h
      cases hnext
      cases honHit : (l.past verbatim skipped (line :: rest)).onHit setting line rest hit with
      | error i =>
        rw [honHit] at hm
        cases hm
      | ok t =>
        rw [honHit] at hm
        cases hm
        exact ⟨verbatim, skipped, line, rest, hit, t, hunread, hsilent, hhit, honHit, rfl⟩

/-- What the outcome of a turn means in steps: a turn that is not the last is one step or more, the
last one emits all that is left, and a turn is interrupted where a step is. -/
def Follows (setting : Setting) (l : Loop) : Except Halt Turn → Prop
  | .ok (.next m) =>
    ∃ s t, State.Leads setting l.state s ∧ State.After setting t s ∧ m = t.loop
  | .ok (.last m) => State.Leads setting l.state ⟨m.toContext, m.buffer.lines.toArray, []⟩ ∧
      m.buffer = l.buffer
  | .error (.interrupted i) => ∃ s, State.Leads setting l.state s ∧ s.step setting = .error i
  | .error (.outOfRange _) => False

/-- Every turn is some steps. -/
theorem follows (setting : Setting) (l : Loop) : Follows setting l (l.step setting) := by
  cases hnext : Scan.next l.verbatim l.cursor (l.buffer.lines.drop l.cursor) with
  | mk verbatim found =>
    cases found with
    | none =>
      -- all lines that are left are silent
      have hleads := State.leads_of_silent setting (Scan.silent_of_next hnext) l.state rfl
        (List.append_nil _).symm
      unfold step
      rw [Scan.inBuffer_natCast, hnext]
      refine ⟨?_, rfl⟩
      simpa [state, State.withVerbatim, State.withContext, withContext] using hleads
    | some found =>
      obtain ⟨index, hit⟩ := found
      obtain ⟨skipped, line, rest, -, -, hhit, hleads, hstep⟩ := step_of_next setting hnext
      have hline : (l.past verbatim skipped (line :: rest)).step setting =
          ((l.past verbatim skipped (line :: rest)).onHit setting line rest hit).map some := by
        rw [State.step_of_cons rfl, State.onLine_of_some (s := l.past _ _ _) hhit]
      rw [hstep]
      cases honHit : (l.past verbatim skipped (line :: rest)).onHit setting line rest hit with
      | error i => exact ⟨_, hleads, by rw [hline, honHit]; rfl⟩
      | ok t => exact ⟨_, t, hleads, by rw [State.After, hline, honHit]; rfl, rfl⟩

/-- A turn that is not the last comes to its find, which changes neither the lines nor anything
that is known but the verbatim block, and ends with the step on the line where it is found. -/
theorem arrives_of_step {m : Loop} (h : l.step setting = .ok (.next m)) :
    ∃ u, State.Leads setting l.state u ∧ State.After setting m.state u ∧
      u.loop.buffer = l.buffer ∧ u.toContext = { l.toContext with verbatim := u.verbatim } := by
  obtain ⟨verbatim, skipped, line, rest, hit, t, hunread, hsilent, hhit, honHit, rfl⟩ :=
    found_of_step h
  refine ⟨l.past verbatim skipped (line :: rest), ?_, ?_, ?_, rfl⟩
  · have hleads := State.leads_of_silent setting hsilent l.state rfl hunread
    simpa [state, past, State.withVerbatim, State.withContext] using hleads
  · rw [state_loop, State.After, State.step_of_cons rfl, State.onLine_of_some (s := l.past _ _ _) hhit,
      honHit]
    rfl
  · simp [State.loop, past, ← hunread]

/-- No turn uses an index that is not in the buffer. -/
theorem step_inRange (setting : Setting) (l : Loop) (e : BufferError) :
    l.step setting ≠ .error (.outOfRange e) := fun h => by
  have hfollows := l.follows setting
  rw [h] at hfollows
  exact hfollows

/-- After a turn that is not the last, the lines still to be read are fewer or lighter. -/
theorem pendingLt_of_step {m : Loop} (h : l.step setting = .ok (.next m)) :
    Relation.TransGen (PendingLt setting.options.maxIncludeDepth.meaning)
      m.state.pending l.state.pending := by
  have hfollows := l.follows setting
  rw [h] at hfollows
  obtain ⟨s, t, hleads, hafter, rfl⟩ := hfollows
  have hsteps := hleads.transGen hafter
  rw [state_loop]
  generalize l.state = before at hsteps ⊢
  induction hsteps with
  | single after => exact .single (State.pendingLt_of_after after)
  | tail _ after ih => exact .tail ih (State.pendingLt_of_after after)

end Loop

end Transclude
