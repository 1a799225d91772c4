import Transclude.Proofs.Twins

/-!
# Severities

The severities that the options choose say how bad a problem is, which diagnostics are logged, and
from where on a reduction fails. They are no part of what a reduction does: with other severities it
puts out the same lines, each of the same origin, ends with the same attributes, and finds the same
problems in the same order. Only includes without content are rated otherwise.

## Main definitions

* `Setting.rated`        : a setting with other severities.
* `Diagnostic.Resembles` : whether two diagnostics are the same but for how bad it is that an
  include has no content.
* `Result.Resembles`     : whether two results are the same but for severities.

## Main statements

* `Buffer.reduce_rated` : a reduction with other severities, and its verdict.
-/

namespace Transclude

open Transclude.Text

/-- The setting with other severities: the one from which a reduction fails, those of an include
whose file is missing or forbidden, and the one from which diagnostics are logged. -/
def Setting.rated (s : Setting) (failureLevel missing violation threshold : Severity) : Setting :=
  { s with
    options := { s.options with
      failureLevel := failureLevel
      missingIncludeSeverity := missing
      jailViolationSeverity := violation
      logThreshold := threshold } }

/-! ## Diagnostics that differ in severity -/

/-- Whether two diagnostics are the same, but for their severity if they are about an include. -/
structure Diagnostic.Resembles (d d' : Diagnostic) : Prop where
  message : d'.message = d.message
  origin : d'.origin = d.origin
  category : d'.category = d.category
  severity : d.category ≠ .resolution → d'.severity = d.severity

/-- Whether a diagnostic fails a reduction at every level is no matter of the severities that are
chosen. -/
theorem Diagnostic.Resembles.alwaysFatal_eq {d d' : Diagnostic} (h : d.Resembles d') :
    d'.alwaysFatal = d.alwaysFatal := by
  unfold alwaysFatal
  rw [h.category]
  by_cases hevaluation : d.category = .evaluation
  · rw [h.severity (by rw [hevaluation]; decide)]
  · have hother : (d.category == Category.evaluation) = false := by
      simpa using hevaluation
    rw [hother, Bool.false_and, Bool.false_and]

/-- Whether two events are the same, but for the severity of a diagnostic about an include. -/
inductive Event.Resembles : Event → Event → Prop
  | same (event : Event) : Resembles event event
  | found {d d' : Diagnostic} (diagnostic : d.Resembles d') : Resembles (.found d) (.found d')

/-- Whether two journals note down the same, but for the severities of diagnostics about
includes. -/
def Journal.Resembles (j j' : Journal) : Prop :=
  List.Forall₂ Event.Resembles j.toList j'.toList

theorem Journal.lasting_resembles : Lasting Resembles := by
  intro j j' event h
  show List.Forall₂ Event.Resembles (j.push event).toList (j'.push event).toList
  rw [Array.toList_push, Array.toList_push]
  exact List.rel_append h (.cons (.same event) .nil)

/-- The diagnostics of such journals differ in no other way. -/
theorem Event.forall₂_diagnostics {events events' : List Event}
    (h : List.Forall₂ Event.Resembles events events') :
    List.Forall₂ Diagnostic.Resembles (events.filterMap Event.diagnostic?)
      (events'.filterMap Event.diagnostic?) := by
  induction h with
  | nil => exact .nil
  | @cons event _ _ _ hevent _ ih =>
    cases hevent with
    | found diagnostic => exact .cons diagnostic ih
    | same =>
      cases event with
      | found d => exact .cons ⟨rfl, rfl, rfl, fun _ => rfl⟩ ih
      | noted | consulted => exact ih

/-! ## Includes -/

section Rated

variable {setting : Setting} (failureLevel missing violation threshold : Severity)

/-- Only a problem about an include, and not about the structure of the document, is rated
otherwise. -/
theorem IncludeProblem.resembles (p : IncludeProblem) (d : Include) (origin : Origin) :
    (p.diagnostic setting.options d origin).Resembles
      (p.diagnostic (setting.rated failureLevel missing violation threshold).options d origin) := by
  refine ⟨rfl, rfl, rfl, fun hcategory => ?_⟩
  cases p with
  | missingAttribute | emptyTarget | tooDeep | circular | optionalMissing => rfl
  | forbidden | missing | unreadable => exact absurd rfl hcategory

/-- The same takes the place of an include, and the problem with it is the same but for how bad it
is. -/
theorem Resolution.ofDirective_rated (setting : Setting) (directories : Table String)
    (a : AttributeSet) (d : Include) (origin : Origin) :
    Parallel (fun r r' => r'.lines = r.lines ∧ r'.directories = r.directories ∧
        List.Forall₂ Event.Resembles r.events r'.events)
      (ofDirective setting directories a d origin)
      (ofDirective (setting.rated failureLevel missing violation threshold) directories a d
        origin) := by
  have hsame : ∀ events : List Event, List.Forall₂ Event.Resembles events events :=
    fun events => List.forall₂_same.2 fun event _ => .same event
  have hproblem : ∀ (p : IncludeProblem) d, Event.Resembles
      (.found (p.diagnostic setting.options d origin))
      (.found (p.diagnostic (setting.rated failureLevel missing violation threshold).options d
        origin)) :=
    fun p d => .found (p.resembles failureLevel missing violation threshold d origin)
  unfold ofDirective
  cases hrequest : IncludeRequest.ofDirective a d origin with
  | error p => exact .ok ⟨rfl, rfl, .cons (hproblem p d) .nil⟩
  | ok request =>
    obtain rfl : request.origin = origin := origin_of_request hrequest
    -- the search reads none of the severities
    have hsearch : Search.ofRequest (setting.rated failureLevel missing violation threshold)
        (baseDirectory (setting.rated failureLevel missing violation threshold) directories
          request.origin) request =
        Search.ofRequest setting (baseDirectory setting directories request.origin) request := rfl
    dsimp only
    rw [hsearch]
    cases (Search.ofRequest setting (baseDirectory setting directories request.origin)
        request).finding with
    | error abort => exact .error rfl
    | ok finding =>
      cases finding with
      | supplied | link | file => exact .ok ⟨rfl, rfl, hsame _⟩
      | problem p =>
        exact .ok ⟨rfl, rfl, List.rel_append (hsame _) (.cons (hproblem p request.directive) .nil)⟩

/-- An include is resolved alike. -/
theorem Context.Twins.resolve_rated {c c' : Context} (h : Twins Journal.Resembles c c')
    (d : Include) (origin : Origin) :
    Parallel (fun p q => q.1 = p.1 ∧ Twins Journal.Resembles p.2 q.2)
      (c.resolve setting d origin)
      (c'.resolve (setting.rated failureLevel missing violation threshold) d origin) := by
  obtain ⟨journal, related⟩ := h
  have hresolution := Resolution.ofDirective_rated failureLevel missing violation threshold setting
    c.directories c.attributes d origin
  unfold Context.resolve
  dsimp only
  generalize Resolution.ofDirective setting c.directories c.attributes d origin = resolved,
    Resolution.ofDirective (setting.rated failureLevel missing violation threshold) c.directories
      c.attributes d origin = resolved' at hresolution ⊢
  cases hresolution with
  | error abort => exact .error abort
  | @ok r r' resembling =>
    obtain ⟨hlines, hdirectories, hevents⟩ := resembling
    refine .ok ⟨hlines, ?_⟩
    rw [hdirectories]
    refine .intro _ ?_
    show List.Forall₂ Event.Resembles (c.journal ++ r.events).toList (journal ++ r'.events).toList
    rw [Array.toList_appendList, Array.toList_appendList]
    exact List.rel_append related hevents

/-! ## Runs -/

/-- Whether two reductions are the same but for the severities they have noted down. -/
abbrev State.Resembles (s u : State) : Prop :=
  Twins Journal.Resembles (fun _ => true) s u

/-- Reductions that are the same but for severities stay so. -/
theorem State.Twins.step_rated {s u : State} (h : s.Resembles u) :
    Parallel (Option.Rel Resembles) (s.step setting)
      (u.step (setting.rated failureLevel missing violation threshold)) := by
  cases hpending : s.pending with
  | nil =>
    rw [step_of_nil hpending, step_of_nil (h.pending.trans hpending)]
    exact .ok .none
  | cons line rest =>
    rw [step_of_cons hpending, step_of_cons (h.pending.trans hpending)]
    have honLine : Parallel Resembles (s.onLine setting line rest)
        (u.onLine (setting.rated failureLevel missing violation threshold) line rest) := by
      refine h.onLine Journal.lasting_resembles rest rfl rfl rfl fun d _ => ?_
      refine (h.context.resolve_rated failureLevel missing violation threshold d
        line.origin).map ?_
      rintro ⟨lines, after⟩ ⟨_, after'⟩ ⟨rfl, hcontext⟩
      exact h.await hcontext _
    exact honLine.map fun _ _ hresembles => .some hresembles

/-- They put out the same lines and end with the same attributes, or are interrupted for the same
reason. -/
theorem State.Twins.run_rated {s u : State} (h : s.Resembles u) :
    Parallel (fun p q => q.1 = p.1 ∧ Context.Twins Journal.Resembles p.2 q.2) (s.run setting)
      (u.run (setting.rated failureLevel missing violation threshold)) := by
  refine run_together (fun s u hresembles => hresembles.step_rated failureLevel missing violation
    threshold) ?_ h
  intro s u hresembles
  exact ⟨hresembles.emitted.trans (List.filter_true _), hresembles.context⟩

end Rated

/-! ## Results and verdicts -/

/-- Whether two results are of the same file and the same but for severities: the lines with their
origins, the attributes, and the diagnostics in their order. -/
structure Result.Resembles (r r' : Result) : Prop where
  file : r'.file = r.file
  lines : r'.lines = r.lines
  attributes : r'.attributes = r.attributes
  diagnostics : List.Forall₂ Diagnostic.Resembles r.diagnostics r'.diagnostics

namespace Result

variable {r : Result}

theorem ok_iff : r.ok = true ↔ ∀ d ∈ r.diagnostics, d.isFatal r.failureLevel = false := by
  simp [ok, firstFatal?]

/-- A diagnostic that fails a reduction at every level fails this one. -/
theorem not_ok_of_mem {d : Diagnostic} (hd : d ∈ r.diagnostics) (hfatal : d.alwaysFatal = true) :
    r.ok = false := by
  refine eq_false_of_ne_true fun hok => ?_
  have hnot := ok_iff.1 hok d hd
  rw [Diagnostic.isFatal, hfatal, Bool.true_or] at hnot
  cases hnot

/-- What passes at a level passes at every higher one. -/
theorem ok_of_level {level : Severity} (hlevel : r.failureLevel.rank ≤ level.rank)
    (hok : r.ok = true) : { r with failureLevel := level }.ok = true := by
  refine ok_iff.2 fun d hd => ?_
  have hnot := ok_iff.1 hok d hd
  simp only [Diagnostic.isFatal, Severity.reaches, Bool.or_eq_false_iff, decide_eq_false_iff_not]
    at hnot ⊢
  exact ⟨hnot.1, by omega⟩

/-- What resembles a diagnostic that fails a reduction at every level does so, too. -/
theorem Resembles.exists_alwaysFatal {r' : Result} (h : r.Resembles r') {d : Diagnostic}
    (hd : d ∈ r.diagnostics) (hfatal : d.alwaysFatal = true) :
    ∃ d' ∈ r'.diagnostics, d'.alwaysFatal = true := by
  obtain ⟨i, hi, hget⟩ := List.getElem_of_mem hd
  have hi' : i < r'.diagnostics.length := h.diagnostics.length_eq ▸ hi
  have hresembles : r.diagnostics[i].Resembles r'.diagnostics[i] := h.diagnostics.get hi hi'
  refine ⟨r'.diagnostics[i], List.getElem_mem hi', ?_⟩
  rw [hresembles.alwaysFatal_eq, hget, hfatal]

end Result

/-- If includes without content are rated as before, a reduction comes to the same but for the
severity from which it fails. -/
theorem Buffer.reduce_relevelled (setting : Setting) (file : String) (attributes : AttributeSet)
    (b : Buffer) (failureLevel threshold : Severity) :
    b.reduce (setting.rated failureLevel setting.options.missingIncludeSeverity
        setting.options.jailViolationSeverity threshold) file attributes =
      (b.reduce setting file attributes).map
        fun (r, journal) => ({ r with failureLevel := failureLevel }, journal) := by
  have hrun : (Loop.start setting file attributes b).state.run
        (setting.rated failureLevel setting.options.missingIncludeSeverity
          setting.options.jailViolationSeverity threshold) =
      (Loop.start setting file attributes b).state.run setting :=
    State.run_congr fun s _ => State.step_congr rfl rfl fun _ _ _ _ _ => rfl
  unfold Buffer.reduce
  rw [Loop.run_eq, Loop.run_eq]
  refine (congrArg (Except.map _) hrun).trans ?_
  cases (Loop.start setting file attributes b).state.run setting with
  | ok ended => rfl
  | error i => rfl

/-- With other severities a reduction puts out the same lines, each of the same origin, ends with
the same attributes, and finds the same in the same order; only how bad it is that an include has no
content may differ. A problem of the structure of the document, or a condition that fatally has no
truth value, fails both, and what passes at one level passes at every higher one. -/
theorem Buffer.reduce_rated (setting : Setting) (file : String) (attributes : AttributeSet)
    (b : Buffer) (failureLevel missing violation threshold : Severity) :
    Parallel (fun p q => p.1.Resembles q.1 ∧
        (∀ d ∈ p.1.diagnostics,
          d.category = .structural ∨ d.category = .evaluation ∧ d.severity = .fatal →
            p.1.ok = false ∧ q.1.ok = false) ∧
        (setting.options.failureLevel.rank ≤ failureLevel.rank →
          missing = setting.options.missingIncludeSeverity →
            violation = setting.options.jailViolationSeverity → p.1.ok = true → q.1.ok = true))
      (b.reduce setting file attributes)
      (b.reduce (setting.rated failureLevel missing violation threshold) file attributes) := by
  have hstart : (Loop.start setting file attributes b).state.Resembles
      (Loop.start (setting.rated failureLevel missing violation threshold) file attributes
        b).state :=
    ⟨.intro #[] .nil, rfl, rfl⟩
  have hresembles : Parallel (fun p q => p.1.Resembles q.1) (b.reduce setting file attributes)
      (b.reduce (setting.rated failureLevel missing violation threshold) file attributes) := by
    unfold Buffer.reduce
    rw [Loop.run_eq, Loop.run_eq]
    refine (hstart.run_rated failureLevel missing violation threshold).map ?_
    rintro ⟨lines, c⟩ ⟨_, c'⟩ ⟨rfl, hcontext⟩
    have hfinished := hcontext.finish Journal.lasting_resembles
    exact ⟨rfl, rfl, congrArg AttributeSet.values hfinished.attributes_eq,
      Event.forall₂_diagnostics hfinished.journals⟩
  refine hresembles.imp_of_ok fun p q hp hq hsame => ⟨hsame, fun d hd hfatal => ?_, ?_⟩
  · have halways : d.alwaysFatal = true := by
      simpa [Diagnostic.alwaysFatal] using hfatal
    obtain ⟨d', hd', halways'⟩ := hsame.exists_alwaysFatal hd halways
    exact ⟨Result.not_ok_of_mem hd halways, Result.not_ok_of_mem hd' halways'⟩
  · rintro hlevel rfl rfl hok
    -- then the second result is the first one, judged at another level
    have hq' := b.reduce_relevelled setting file attributes failureLevel threshold
    rw [hp] at hq'
    obtain rfl := Except.ok.inj (hq.symm.trans hq')
    obtain ⟨⟨lines, c⟩, -, rfl⟩ := eq_ok_of_map hp
    exact Result.ok_of_level hlevel hok

/-- A document that includes a missing file fails if a missing file is an error, and not if it is a
warning; the lines, the attributes and the problem are the same. -/
theorem Buffer.reduce_rated_missing :
    let b : Buffer := ⟨[⟨"include::b[]", { file := "a", line := 1 }⟩]⟩
    let setting := Setting.jailed {} .standard {} {} "/" "/" "/"
    ∃ p q, b.reduce setting "a" {} = .ok p ∧
      b.reduce (setting.rated .error .warning .error .debug) "a" {} = .ok q ∧
      p.1.Resembles q.1 ∧ p.1.ok = false ∧ q.1.ok = true := by
  intro b setting
  let rated := setting.rated .error .warning .error .debug
  have hrated := b.reduce_rated setting "a" {} .error .warning .error .debug
  have hfailed : ((Loop.start setting "a" {} b).state.runWithin setting 3).map
      (fun ended => (Result.ofRun setting "a" ended.1 ended.2).1.ok) = some false := by
    decide +kernel
  have hpassed : ((Loop.start rated "a" {} b).state.runWithin rated 3).map
      (fun ended => (Result.ofRun rated "a" ended.1 ended.2).1.ok) = some true := by
    decide +kernel
  obtain ⟨⟨lines, c⟩, hrun, hok⟩ := Option.map_eq_some_iff.1 hfailed
  obtain ⟨⟨lines', c'⟩, hrun', hok'⟩ := Option.map_eq_some_iff.1 hpassed
  have hp := Buffer.reduce_of_runWithin 3 hrun
  have hq := Buffer.reduce_of_runWithin 3 hrun'
  rw [hp] at hrated
  obtain ⟨q, hq', hsame, -⟩ := hrated.exists_ok
  obtain rfl := Except.ok.inj (hq.symm.trans hq')
  exact ⟨_, _, hp, hq, hsame, hok, hok'⟩

end Transclude
