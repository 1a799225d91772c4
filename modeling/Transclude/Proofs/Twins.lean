import Transclude.Proofs.Lockstep

/-!
# Twin reductions

Two reductions are twins if they know the same but for what is in their journals, have the same
lines still to be read, and have emitted the same but for some lines. What is in a journal is never
looked at, and neither is what was emitted. So twins stay twins over every line that is no include,
and over an include if it is resolved alike, and what they note down differs no further than it did.

## Main definitions

* `Journal.Lasting` : whether journals that are related stay so when both note down the same.
* `Context.Twins`   : whether two reductions know the same but for their journals.
* `State.Twins`     : whether two reductions are twins.

## Main statements

* `State.Twins.onLine` : twins that take the same line stay twins, if it is resolved alike where it
  is an include.
-/

namespace Transclude

open Transclude.Text

/-- Whether journals that are related stay so when both note down the same. -/
def Journal.Lasting (J : Journal → Journal → Prop) : Prop :=
  ∀ j j' event, J j j' → J (j.push event) (j'.push event)

/-! ## What is known -/

/-- Whether two reductions know the same but for their journals, which are related by `J`. -/
inductive Context.Twins (J : Journal → Journal → Prop) (c : Context) : Context → Prop
  | intro (journal : Journal) (related : J c.journal journal) :
    Twins J c { c with journal := journal }

namespace Context

variable {setting setting' : Setting} {J : Journal → Journal → Prop} {c c' : Context}

theorem Twins.journals (h : Twins J c c') : J c.journal c'.journal := by
  cases h with
  | intro journal related => exact related

theorem Twins.attributes_eq (h : Twins J c c') : c'.attributes = c.attributes := by
  cases h with
  | intro => rfl

theorem Twins.verbatim_eq (h : Twins J c c') : c'.verbatim = c.verbatim := by
  cases h with
  | intro => rfl

theorem Twins.withVerbatim (h : Twins J c c') (verbatim : Verbatim) :
    Twins J { c with verbatim := verbatim } { c' with verbatim := verbatim } := by
  cases h with
  | intro journal related => exact .intro journal related

theorem Twins.enter (h : Twins J c c') (d : Opening) (active : Bool) (origin : Origin) :
    Twins J (c.enter d active origin) (c'.enter d active origin) := by
  cases h with
  | intro journal related => exact .intro journal related

section Lasting

variable (hJ : Journal.Lasting J)
include hJ

theorem Twins.log (h : Twins J c c') (event : Event) : Twins J (c.log event) (c'.log event) := by
  cases h with
  | intro journal related => exact .intro _ (hJ _ _ event related)

theorem Twins.reportAll (h : Twins J c c') (problems : List (String × Origin)) :
    Twins J (c.reportAll problems) (c'.reportAll problems) := by
  induction problems generalizing c c' with
  | nil => exact h
  | cons problem problems ih => exact ih (h.log hJ _)

theorem Twins.afterEntry (h : Twins J c c') (e : AttributeEntry) :
    Twins J (c.afterEntry e) (c'.afterEntry e) := by
  have hlog := fun event => h.log hJ event
  cases h with
  | intro journal related =>
    have hactive : active { c with journal := journal } = c.active := rfl
    unfold Context.afterEntry
    rw [hactive]
    split
    · dsimp only
      split
      · exact .intro journal related
      · exact hlog _
    · exact hlog _

theorem Twins.afterClosing (h : Twins J c c') (d : Closing) (origin : Origin) :
    Twins J (c.afterClosing d origin) (c'.afterClosing d origin) := by
  have hlog := fun event => h.log hJ event
  cases h with
  | intro journal related =>
    unfold Context.afterClosing
    dsimp only
    split
    · exact .intro journal related
    · exact hlog _

/-- A condition is decided alike, and the same is noted down about it. -/
theorem Twins.judge (h : Twins J c c') (hevaluator : setting'.evaluator = setting.evaluator)
    (d : Opening) (origin : Origin) :
    Parallel (fun p q => q.1 = p.1 ∧ Twins J p.2 q.2) (c.judge setting d origin)
      (c'.judge setting' d origin) := by
  unfold Context.judge
  rw [hevaluator, h.attributes_eq]
  split
  · exact .ok ⟨rfl, h⟩
  · exact .error rfl
  · exact .ok ⟨rfl, h.log hJ _⟩

theorem Twins.judgeWithin (h : Twins J c c') (hevaluator : setting'.evaluator = setting.evaluator)
    (d : Opening) (origin : Origin) :
    Parallel (fun p q => q.1 = p.1 ∧ Twins J p.2 q.2) (c.judgeWithin setting d origin)
      (c'.judgeWithin setting' d origin) := by
  have hactive : c'.active = c.active := by
    cases h with
    | intro => rfl
  unfold Context.judgeWithin
  rw [hactive]
  split
  · exact h.judge hJ hevaluator d origin
  · exact .ok ⟨rfl, h⟩

theorem Twins.finish (h : Twins J c c') : Twins J c.finish c'.finish := by
  have hframes : c'.frames = c.frames := by
    cases h with
    | intro => rfl
  unfold Context.finish
  rw [hframes]
  exact h.reportAll hJ _

end Lasting

end Context

/-! ## What is read -/

namespace State

/-- Whether two reductions are twins: their journals are related by `J`, and the second has emitted
those lines of the first that `keeps` holds of. -/
structure Twins (J : Journal → Journal → Prop) (keeps : Line → Bool) (s u : State) : Prop where
  context : Context.Twins J s.toContext u.toContext
  emitted : u.emitted.toList = s.emitted.toList.filter keeps
  pending : u.pending = s.pending

variable {setting setting' : Setting} {J : Journal → Journal → Prop} {keeps : Line → Bool}
  {s u : State} {c c' : Context} {line : Line}

/-- Twins that know something else are to read the same lines. -/
theorem Twins.await (h : Twins J keeps s u) (hcontext : Context.Twins J c c')
    (pending : List Line) :
    Twins J keeps ((s.withContext c).await pending) ((u.withContext c').await pending) :=
  ⟨hcontext, h.emitted, rfl⟩

/-- Twins emit the same line. -/
theorem Twins.emit (h : Twins J keeps s u) (hcontext : Context.Twins J c c')
    (hkept : keeps line = true) (rest : List Line) :
    Twins J keeps ((s.withContext c).emit line rest) ((u.withContext c').emit line rest) := by
  refine ⟨hcontext, ?_, rfl⟩
  show (u.emitted.push line).toList = (s.emitted.push line).toList.filter keeps
  rw [Array.toList_push, Array.toList_push, List.filter_append, h.emitted]
  simp [hkept]

/-- Only one of two twins emits a line that is not kept. -/
theorem Twins.emit_left (h : Twins J keeps s u) (hdropped : keeps line = false) (rest : List Line)
    (hpending : u.pending = rest) : Twins J keeps (s.emit line rest) u := by
  refine ⟨h.context, ?_, hpending⟩
  show u.emitted.toList = (s.emitted.push line).toList.filter keeps
  rw [Array.toList_push, List.filter_append, h.emitted]
  simp [hdropped]

section Lasting

variable (hJ : Journal.Lasting J) (h : Twins J keeps s u) (rest : List Line)
include hJ h

theorem Twins.skip (line : Line) (d : Opening) :
    Twins J keeps (s.skip line rest d) (u.skip line rest d) := by
  have hcontext := h.context.reportAll hJ
    (problemsIn rest (BlockEnd.find d.target rest).problems)
  cases hlength : (BlockEnd.find d.target rest).length with
  | some n =>
    rw [skip_of_some hlength, skip_of_some hlength]
    exact h.await hcontext _
  | none =>
    rw [skip_of_none hlength, skip_of_none hlength]
    exact h.await (hcontext.log hJ _) _

theorem Twins.onJudged (hcontext : Context.Twins J c c') (line : Line) (d : Opening)
    (active : Bool) :
    Twins J keeps ((s.withContext c).onJudged line rest d active)
      ((u.withContext c').onJudged line rest d active) := by
  unfold State.onJudged
  split
  · exact h.await hcontext _
  · exact h.await hcontext _
  · exact h.await (hcontext.enter d true line.origin) _
  · exact (h.await hcontext rest).skip hJ rest line d

theorem Twins.onOpening (hevaluator : setting'.evaluator = setting.evaluator) (line : Line)
    (d : Opening) :
    Parallel (Twins J keeps) (s.onOpening setting line rest d)
      (u.onOpening setting' line rest d) := by
  refine (h.context.judge hJ hevaluator d line.origin).map ?_
  rintro ⟨active, after⟩ ⟨active', after'⟩ ⟨rfl, hcontext⟩
  exact h.onJudged hJ rest hcontext line d active'

variable (hkept : keeps line = true)
include hkept

theorem Twins.onPreserved (hevaluator : setting'.evaluator = setting.evaluator) (d : Opening) :
    Parallel (Twins J keeps) (s.onPreserved setting line rest d)
      (u.onPreserved setting' line rest d) := by
  unfold State.onPreserved
  split
  · refine .ok ?_
    split
    · exact h.await h.context _
    · exact h.emit h.context hkept rest
  · refine (h.context.judgeWithin hJ hevaluator d line.origin).map ?_
    rintro ⟨active, after⟩ ⟨active', after'⟩ ⟨rfl, hcontext⟩
    exact h.emit (hcontext.enter d active' line.origin) hkept rest

variable (hpreserved :
  setting'.options.preserveConditionals = setting.options.preserveConditionals)
include hpreserved

theorem Twins.onClosing (d : Closing) :
    Twins J keeps (s.onClosing setting line rest d) (u.onClosing setting' line rest d) := by
  have hcontext := h.context.afterClosing hJ d line.origin
  unfold State.onClosing
  rw [hpreserved]
  dsimp only
  split
  · exact h.emit hcontext hkept rest
  · exact h.await hcontext rest

/-- Twins that take the same line stay twins, if it is resolved alike where it is an include. -/
theorem Twins.onLine (hevaluator : setting'.evaluator = setting.evaluator)
    (hinclude : ∀ d, Directive.ofLine? (strippedEnd line.text) = some (.include d) →
      Parallel (Twins J keeps) (s.onInclude setting line rest d)
        (u.onInclude setting' line rest d)) :
    Parallel (Twins J keeps) (s.onLine setting line rest) (u.onLine setting' line rest) := by
  have hverbatim : u.verbatim = s.verbatim := h.context.verbatim_eq
  cases hfound : Hit.ofLine? s.verbatim line.text with
  | mk verbatim found =>
    have hfound' : Hit.ofLine? u.verbatim line.text = (verbatim, found) := by
      rw [hverbatim, hfound]
    cases found with
    | none =>
      rw [onLine_of_none hfound, onLine_of_none hfound']
      exact .ok (h.emit (h.context.withVerbatim verbatim) hkept rest)
    | some hit =>
      obtain rfl := Hit.verbatim_of_ofLine? hfound
      rw [onLine_of_some hfound, onLine_of_some (hverbatim.symm ▸ hfound')]
      rcases hit with (d | d | d) | e
      · exact hinclude d (Hit.directive_of_ofLine? (by rw [hfound]))
      · dsimp only [State.onHit]
        rw [hpreserved]
        split
        · exact h.onPreserved hJ rest hkept hevaluator d
        · exact h.onOpening hJ rest hevaluator line d
      · exact .ok (h.onClosing hJ rest hkept hpreserved d)
      · exact .ok (h.emit (h.context.afterEntry hJ e) hkept rest)

end Lasting

end State

end Transclude
