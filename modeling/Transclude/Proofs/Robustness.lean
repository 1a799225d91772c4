import Mathlib.Data.List.Basic
import Transclude.Proofs.Endings
import Transclude.Proofs.Numerals
import Transclude.Proofs.Regions
import Transclude.Reduction.Document

/-!
# No document stops a reduction

Whatever the text of a document is, and whatever files it includes, its reduction has a result. The
operations that may fail are used where they cannot: no turn of the loop uses an index that is not
in the buffer, and no entry is taken off an empty stack of regions. What is wrong with a condition,
or with the file of an include, is reported, and the reduction goes on. Only two things escape: a
file whose bytes are refused in a way that is not reported, and a number that cannot be read.

## Main definitions

* `Loop.InBounds`            : whether the indices of a turn are all in the buffer.
* `State.ReportsConditions`  : whether a condition without a truth value is reported and false.
* `State.ReportsIncludes`    : whether an include whose file gives no text is reported.
* `State.Refuses`            : whether the next line ends the reduction, and why.
* `Abort.Escapes`            : the reasons for which a reduction without hooks may end.

## Main statements

* `Job.run_robust` : a job without hooks has a result, or one of these reasons.
-/

namespace Transclude

open Transclude.Text

/-! ## Indices -/

/-- Whether the indices of a turn are all in the buffer: none is refused, the find is at the cursor
or after it, and the end of a block, and what is wrong in it, after its opening. -/
structure Loop.InBounds (setting : Setting) (l : Loop) : Prop where
  inRange : ∀ e, l.step setting ≠ .error (.outOfRange e)
  found : ∀ verbatim index hit,
    Scan.inBuffer l.verbatim l.buffer l.cursor = .ok (verbatim, some (index, hit)) →
      (l.cursor : Int) ≤ index ∧ index < l.buffer.size
  block : ∀ (opened : Nat) target stop problems, opened < l.buffer.size →
    BlockEnd.inBuffer l.buffer opened target = .ok (stop, problems) →
      (∀ index ∈ stop, (opened : Int) ≤ index ∧ index < l.buffer.size) ∧
        ∀ p ∈ problems, (opened : Int) < p.1 ∧ p.1 < l.buffer.size

theorem Loop.inBounds (setting : Setting) (l : Loop) : l.InBounds setting := by
  refine ⟨l.step_inRange setting, ?_, ?_⟩
  · intro verbatim index hit hfound
    -- the find is one of the lines from the cursor on, after those that are skipped
    rw [Scan.inBuffer_natCast] at hfound
    obtain ⟨skipped, line, rest, hlines, rfl, -⟩ := Scan.found_of_next (Except.ok.inj hfound)
    have hlength := congrArg List.length hlines
    rw [List.length_drop, List.length_append, List.length_cons] at hlength
    unfold Buffer.size
    omega
  · intro opened target stop problems hopened hblock
    -- the block is read from the lines after its opening, and these are numbered from there on
    rw [BlockEnd.inBuffer, ← Int.natCast_succ, Scan.linesFrom_natCast] at hblock
    obtain ⟨rfl, rfl⟩ := Prod.mk.inj (Except.ok.inj hblock)
    have hlength : (l.buffer.lines.drop opened.succ).length = l.buffer.size - opened.succ :=
      List.length_drop
    refine ⟨fun index hindex => ?_, fun p hp => ?_⟩
    · obtain ⟨n, hn, rfl⟩ := Option.map_eq_some_iff.1 hindex
      have hle := BlockEnd.length_find_le hn
      omega
    · obtain ⟨⟨n, message⟩, hmem, rfl⟩ := List.mem_map.1 hp
      have hlt := BlockEnd.index_problems_find _ hmem
      dsimp only at hlt ⊢
      omega

/-! ## Conditions -/

/-- The report of a condition that has no truth value. -/
def EvaluationError.diagnostic (e : EvaluationError) (origin : Origin) : Diagnostic :=
  ⟨if e.recoverable then .warning else .fatal, e.message, origin, .evaluation⟩

/-- A condition that has no truth value is reported and counts as false, unless a number in it
cannot be read. -/
theorem Context.judge_of_undecided {setting : Setting} {c : Context} {d : Opening}
    {e : EvaluationError} (h : d.decide setting.evaluator c.attributes = .error e)
    (hother : ∀ n, e ≠ .numeral n) (origin : Origin) :
    c.judge setting d origin = .ok (false, c.log (.found (e.diagnostic origin))) := by
  unfold Context.judge
  rw [h]
  cases e with
  | numeral n => exact absurd rfl (hother n)
  | missingExpression | invalidExpression | missingTarget | targetNotPermitted | reported
  | inDirective => rfl

/-- A decision that ends a reduction has met a number that cannot be read. -/
theorem Context.numeral_of_judge {setting : Setting} {c : Context} {d : Opening} {origin : Origin}
    {i : Interruption} (h : c.judge setting d origin = .error i) :
    ∃ e, d.decide setting.evaluator c.attributes = .error (.numeral e) ∧ i.abort = .numeral e := by
  unfold judge at h
  split at h
  · cases h
  · rename_i e hundecided
    cases h
    exact ⟨e, hundecided, rfl⟩
  · cases h

namespace State

variable {setting : Setting} {s t : State} {line : Line} {rest : List Line} {d : Opening}

/-- Whether a step has reported `p` and left out what follows, up to some line, with no more than
problems of the structure found in it. -/
structure LeavesOut (s t : State) (rest : List Line) (p : Diagnostic) : Prop where
  attributes : t.attributes = s.attributes
  frames : t.frames = s.frames
  emitted : t.emitted = s.emitted
  pending : t.pending <:+ rest
  diagnostics : ∃ more, t.journal.diagnostics = s.journal.diagnostics ++ p :: more ∧
    ∀ q ∈ more, q.category = .structural

/-- Whether a step has reported `p` and opened a block that counts as false. -/
structure OpensFalse (s t : State) (line : Line) (rest : List Line) (d : Opening)
    (p : Diagnostic) : Prop where
  attributes : t.attributes = s.attributes
  frames : t.frames = d.frame false line.origin :: s.frames
  emitted : t.emitted = s.emitted.push line
  pending : t.pending = rest
  diagnostics : t.journal.diagnostics = s.journal.diagnostics ++ [p]

/-- Whether a condition without a truth value on the next line is reported once and counts as false,
unless a number in it cannot be read. -/
def ReportsConditions (setting : Setting) (s : State) : Prop :=
  ∀ line rest d e, s.pending = line :: rest →
    Directive.ofLine? (strippedEnd line.text) = some (.opening d) →
      d.decide setting.evaluator s.attributes = .error e → (∀ n, e ≠ .numeral n) →
        (setting.options.preserveConditionals.meaning = false →
          ∃ t, s.step setting = .ok (some t) ∧ s.LeavesOut t rest (e.diagnostic line.origin)) ∧
        (setting.options.preserveConditionals.meaning = true → d.inlineText? = none →
          s.active = true → ∃ t, s.step setting = .ok (some t) ∧
            s.OpensFalse t line rest d (e.diagnostic line.origin))

/-- What is found wrong in a block that is left out are problems of its structure. -/
theorem diagnostics_skip (s : State) (line : Line) (rest : List Line) (d : Opening) :
    ∃ more, (s.skip line rest d).journal.diagnostics = s.journal.diagnostics ++ more ∧
      ∀ q ∈ more, q.category = .structural := by
  let reports := (problemsIn rest (BlockEnd.find d.target rest).problems).map
    fun problem => Diagnostic.structural problem.1 problem.2
  have hreported : (s.reportAll (problemsIn rest
      (BlockEnd.find d.target rest).problems)).journal.diagnostics =
        s.journal.diagnostics ++ reports := s.toContext.diagnostics_reportAll _
  have hreports : ∀ q ∈ reports, q.category = .structural := by
    intro q hq
    obtain ⟨problem, -, rfl⟩ := List.mem_map.1 hq
    rfl
  cases hlength : (BlockEnd.find d.target rest).length with
  | some n =>
    rw [skip_of_some hlength]
    exact ⟨reports, hreported, hreports⟩
  | none =>
    rw [skip_of_none hlength]
    refine ⟨reports ++ [.structural (Context.unterminated d.raw) line.origin], ?_, ?_⟩
    · refine (Context.diagnostics_report _ _ _).trans ?_
      rw [hreported, List.append_assoc]
    · refine List.forall_mem_append.2 ⟨hreports, fun q hq => ?_⟩
      rw [List.mem_singleton.1 hq]
      rfl

/-- A conditional that counts as false leaves out its text or its block. -/
theorem leavesOut_onJudged {c : Context} {p : Diagnostic}
    (hattributes : c.attributes = s.attributes) (hframes : c.frames = s.frames)
    (hdiagnostics : c.journal.diagnostics = s.journal.diagnostics ++ [p]) (line : Line)
    (rest : List Line) (d : Opening) :
    s.LeavesOut ((s.withContext c).onJudged line rest d false) rest p := by
  unfold onJudged
  cases d.inlineText? with
  | some text => exact ⟨hattributes, hframes, rfl, List.suffix_refl _, [], hdiagnostics, by simp⟩
  | none =>
    obtain ⟨hemitted, journal, hcontext, -⟩ := skip_eq (s.withContext c) line rest d
    obtain ⟨more, hmore, hstructural⟩ := diagnostics_skip (s.withContext c) line rest d
    refine ⟨?_, ?_, hemitted, pending_skip_suffix _ line rest d, more, ?_, hstructural⟩
    · exact (congrArg Context.attributes hcontext).trans hattributes
    · exact (congrArg Context.frames hcontext).trans hframes
    · refine hmore.trans ?_
      show c.journal.diagnostics ++ more = _
      rw [hdiagnostics, List.append_assoc, List.singleton_append]

theorem reportsConditions (setting : Setting) (s : State) : s.ReportsConditions setting := by
  intro line rest d e hpending hd hundecided hother
  let c := s.log (.found (e.diagnostic line.origin))
  have hjudged : s.judge setting d line.origin = .ok (false, c) :=
    Context.judge_of_undecided hundecided hother line.origin
  have hdiagnostics : c.journal.diagnostics =
      s.journal.diagnostics ++ [e.diagnostic line.origin] :=
    Journal.diagnostics_push s.journal _
  refine ⟨fun hnormal => ?_, fun hpreserved hblock hactive => ?_⟩
  · refine ⟨(s.withContext c).onJudged line rest d false, ?_, ?_⟩
    · rw [step_of_opening_judged hnormal hpending hd, hjudged]
      rfl
    · exact leavesOut_onJudged (s := s) (c := c) rfl rfl hdiagnostics line rest d
  · have hwithin : s.judgeWithin setting d line.origin = .ok (false, c) := by
      rw [Context.judgeWithin, if_pos hactive, hjudged]
    refine ⟨(s.withContext (c.enter d false line.origin)).emit line rest, ?_, ?_⟩
    · rw [step_of_opening_kept hpreserved hpending hd hblock, hwithin]
      rfl
    · exact ⟨rfl, rfl, rfl, rfl, hdiagnostics⟩

end State

/-! ## Includes -/

/-- Why there is no text for an include that is let through to a path: no file is there, the file
cannot be opened, or its bytes or the name of its encoding are wrong in a way that is reported. -/
inductive Search.NoText (s : Setting) (request : IncludeRequest) (path : String) :
    IncludeProblem → Prop
  | missing (noFile : s.files.isFile s.cwd path = false) (required : request.optional = false) :
    NoText s request path (.missing path)
  | optionalMissing (noFile : s.files.isFile s.cwd path = false)
    (optional : request.optional = true) : NoText s request path (.optionalMissing path)
  | unopened {e : FileError} (isFile : s.files.isFile s.cwd path = true)
    (refused : s.files.read s.cwd path = .error e) :
    NoText s request path (.unreadable path e.message)
  | undecoded {bytes : List UInt8} {e : EncodingError} (isFile : s.files.isFile s.cwd path = true)
    (content : s.files.read s.cwd path = .ok bytes)
    (refused : Encoding.readFile s.names (request.encoding s.options) bytes = .error e)
    (reported : e.isReported = true) : NoText s request path (.unreadable path e.message)

/-- That is the problem that is found. -/
theorem Search.NoText.finds {s : Setting} {base path : String} {request : IncludeRequest}
    {p : IncludeProblem} (h : NoText s request path p) (hreached : Reaches s base request path)
    (hfresh : path ∉ request.origin.lineage) : Finds s base request (.problem p) := by
  cases h with
  | missing noFile required => exact .missing hreached hfresh noFile required
  | optionalMissing noFile optional => exact .optionalMissing hreached hfresh noFile optional
  | unopened isFile refused =>
    refine .unreadable ⟨hreached, hfresh, isFile⟩ ?_
    rw [readText, refused]
  | undecoded isFile content refused reported =>
    refine .unreadable ⟨hreached, hfresh, isFile⟩ ?_
    rw [readText, content]
    dsimp only
    rw [refused]
    dsimp only
    rw [reported]
    rfl

namespace State

variable {setting : Setting} {s : State} {line : Line} {rest : List Line}

/-- Whether an include on the next line whose file gives no text is reported once, and at most a
line that says so takes its place. -/
def ReportsIncludes (setting : Setting) (s : State) : Prop :=
  ∀ line rest d request path p, s.pending = line :: rest →
    Directive.ofLine? (strippedEnd line.text) = some (.include d) →
      IncludeRequest.ofDirective s.attributes d line.origin = .ok request →
        Search.Reaches setting (Resolution.baseDirectory setting s.directories line.origin) request
          path → path ∉ request.origin.lineage → Search.NoText setting request path p →
            ∃ t, s.step setting = .ok (some t) ∧ t.attributes = s.attributes ∧
              t.emitted = s.emitted ∧
              (t.pending = rest ∨ t.pending = Resolution.placeholder request :: rest) ∧
              t.journal.diagnostics =
                s.journal.diagnostics ++ [p.diagnostic setting.options d line.origin]

theorem reportsIncludes (setting : Setting) (s : State) : s.ReportsIncludes setting := by
  intro line rest d request path p hpending hd hrequested hreached hfresh hnone
  have hfinds := hnone.finds hreached hfresh
  obtain ⟨horigin, hdirective⟩ := eq_of_request hrequested
  obtain ⟨after, hresolved, hattributes, hdiagnostics⟩ :=
    Context.resolve_of_finds hrequested hfinds
  refine ⟨(s.withContext after).await ((Resolution.ofFinding setting s.directories s.attributes
    request (.problem p)).lines ++ rest), ?_, hattributes, rfl, ?_, ?_⟩
  · rw [step_of_include setting hpending hd, hresolved]
    rfl
  · dsimp only [await, Resolution.ofFinding]
    split
    · exact .inr rfl
    · exact .inl rfl
  · rw [← horigin, ← hdirective]
    exact hdiagnostics

/-! ## What ends a reduction -/

/-- Whether the next line ends the reduction, and why: the search for an include does, or a number
in a condition cannot be read. -/
inductive Refuses (setting : Setting) (s : State) : Abort → Prop
  | inclusion {line : Line} {rest : List Line} {d : Include} {request : IncludeRequest}
    {abort : Abort} (pending : s.pending = line :: rest)
    (directive : Directive.ofLine? (strippedEnd line.text) = some (.include d))
    (requested : IncludeRequest.ofDirective s.attributes d line.origin = .ok request)
    (stops : Search.Stops setting
      (Resolution.baseDirectory setting s.directories line.origin) request abort) :
    Refuses setting s abort
  | condition {line : Line} {rest : List Line} {d : Opening} {e : NumeralError}
    (pending : s.pending = line :: rest)
    (directive : Directive.ofLine? (strippedEnd line.text) = some (.opening d))
    (judged : setting.options.preserveConditionals.meaning = true →
      d.inlineText? = none ∧ s.active = true)
    (undecided : d.decide setting.evaluator s.attributes = .error (.numeral e)) :
    Refuses setting s (.numeral e)

/-- A step that does not come to its end ends the reduction for a reason. -/
theorem refuses_of_step {i : Interruption} (h : s.step setting = .error i) :
    s.Refuses setting i.abort := by
  obtain ⟨line, rest, hpending, ⟨d, hd, hresolve⟩ | ⟨d, hd, hjudged, hjudge⟩⟩ := error_of_step h
  · obtain ⟨request, hrequested, hstops⟩ := Context.stops_of_resolve hresolve
    exact .inclusion hpending hd hrequested hstops
  · obtain ⟨e, hundecided, habort⟩ := Context.numeral_of_judge hjudge
    rw [habort]
    exact .condition hpending hd hjudged hundecided

/-- A line that ends the reduction is where a step does not come to its end. -/
theorem Refuses.step_eq {abort : Abort} (h : s.Refuses setting abort) :
    ∃ i, s.step setting = .error i ∧ i.abort = abort := by
  cases h with
  | inclusion pending directive requested stops =>
    obtain ⟨i, hresolve, habort⟩ := Context.resolve_of_stops requested stops
    refine ⟨i, ?_, habort⟩
    rw [step_of_include setting pending directive, hresolve]
    rfl
  | @condition line rest d e pending directive judged undecided =>
    have hjudge : s.judge setting d line.origin = .error ⟨.numeral e, s.journal⟩ := by
      rw [Context.judge, undecided]
    refine ⟨⟨.numeral e, s.journal⟩, ?_, rfl⟩
    cases hpreserved : setting.options.preserveConditionals.meaning with
    | false =>
      rw [step_of_opening_judged hpreserved pending directive, hjudge]
      rfl
    | true =>
      obtain ⟨hblock, hactive⟩ := judged hpreserved
      rw [step_of_opening_kept hpreserved pending directive hblock, Context.judgeWithin,
        if_pos hactive, hjudge]
      rfl

end State

/-- The reasons for which a reduction without hooks may end: bytes are refused in a way that is not
reported, or a number cannot be read. -/
inductive Abort.Escapes : Abort → Prop
  | encoding {e : EncodingError} (unreported : e.isReported = false) : Escapes (.encoding e)
  | numeral {e : NumeralError} (arises : e.Arises) : Escapes (.numeral e)

/-- Without processors nothing else ends a reduction. -/
theorem State.Refuses.escapes {setting : Setting} {s : State} {abort : Abort}
    (h : s.Refuses setting abort) (hprocessors : setting.registry.includeProcessors = [])
    (hevaluator : setting.evaluator = .standard) : abort.Escapes := by
  cases h with
  | inclusion pending directive requested stops =>
    cases stops with
    | hook asked fails =>
      obtain ⟨before, later, hclaim, -⟩ := asked.first
      simp [Registry.claim, hprocessors] at hclaim
    | encoding opened content undecoded unreported => exact .encoding unreported
    | numeral opened decoded unread => exact .numeral (Selection.arises_of_ofAttributes unread)
  | condition pending directive judged undecided =>
    rw [hevaluator] at undecided
    exact .numeral (Opening.arises_of_decide undecided)

/-! ## Jobs -/

namespace Job

variable {j : Job} {cwd : String}

/-- A result is the verdict if nothing is shown it, nothing is written and it is not refused. -/
theorem verdict_conclude (hpostprocessors : j.registry.postprocessors = [])
    (htarget : j.target = .nowhere) (hrefuse : j.refuseFatal = false) (r : Result)
    (journal : Journal) (o : Output) : (j.conclude cwd r journal o).verdict = .ok r := by
  have hshown : j.registry.postprocess r = [] := by
    rw [Registry.postprocess, hpostprocessors]
    rfl
  unfold conclude
  rw [hshown]
  dsimp only [List.getLast?_nil, Option.getD_none]
  cases r.firstFatal? with
  | some d =>
    dsimp only
    rw [hrefuse]
    rfl
  | none =>
    dsimp only
    rw [htarget]
    rfl

/-- A job whose text is there and whose options have attributes comes to what its reduction does. -/
theorem run_of_text {text : String} {attributes : Mapping} (hsource : j.source = .text text)
    (hattributes : j.options.attributeEntries = .ok attributes) (cwd : String) (o : Output) :
    j.run cwd o =
      match Document.reduce ⟨text, none⟩
        (Document.setting ⟨text, none⟩ o.files cwd j.options j.evaluator j.registry j.names)
        attributes with
      | .error i => { verdict := .error i.abort.toFailure, journal := i.journal, output := o }
      | .ok (r, journal) => j.conclude cwd r journal o := by
  rw [run, hsource, hattributes]
  rfl

end Job

/-- A job that has a text, and no hooks and no target, and that does not refuse fatal results, has a
result. Or a line that it gets to ends it, because the bytes of a file are refused in a way that is
not reported, or because a number cannot be read. No index is out of the buffer, no entry is taken
off an empty stack of regions, and what is wrong with a condition or with the file of an include is
reported once, and the reduction goes on. -/
theorem Job.run_robust (j : Job) (cwd : String) (o : Output) {text : String} {attributes : Mapping}
    (hsource : j.source = .text text) (hattributes : j.options.attributeEntries = .ok attributes)
    (hregistry : j.registry.isEmpty = true) (hevaluator : j.evaluator = .standard)
    (htarget : j.target = .nowhere) (hrefuse : j.refuseFatal = false) :
    let document : Document := ⟨text, none⟩
    let setting := document.setting o.files cwd j.options j.evaluator j.registry j.names
    let start := Loop.start setting document.name
      (.ofOptions attributes (document.intrinsics setting.options.safeMode))
      ⟨document.lines setting.registry⟩
    ((∃ r, (j.run cwd o).verdict = .ok r) ∨
        ∃ s abort, State.Leads setting start.state s ∧ s.Refuses setting abort ∧ abort.Escapes ∧
          (j.run cwd o).verdict = .error abort.toFailure) ∧
      (∀ l : Loop, l.InBounds setting) ∧
      (∀ s : State, s.ReportsConditions setting ∧ s.ReportsIncludes setting) ∧
      ∀ tags source lines, TagFilter.Register.select tags source lines =
        some (TagFilter.select tags source lines) := by
  intro document setting start
  refine ⟨?_, Loop.inBounds setting, fun s => ⟨s.reportsConditions setting,
    s.reportsIncludes setting⟩, TagFilter.Register.select_eq⟩
  obtain ⟨⟨hprocessors, -⟩, hpostprocessors⟩ :
      (j.registry.includeProcessors = [] ∧ j.registry.preprocessors = []) ∧
        j.registry.postprocessors = [] := by
    simpa [Registry.isEmpty] using hregistry
  rw [run_of_text hsource hattributes]
  -- the job has a result if the lines come to their end, so one that has none met such a line
  cases hrun : start.state.run setting with
  | ok ended =>
    have hreduce := Buffer.reduce_of_run hrun
    obtain ⟨⟨r, journal⟩, hreduced⟩ :
        ∃ reduced, document.reduce setting attributes = .ok reduced :=
      ⟨_, congrArg (Except.map _) hreduce⟩
    rw [hreduced]
    exact .inl ⟨r, verdict_conclude hpostprocessors htarget hrefuse r journal o⟩
  | error i =>
    have hreduce := Buffer.reduce_of_run_error hrun
    have hreduced : document.reduce setting attributes = .error i :=
      congrArg (Except.map _) hreduce
    obtain ⟨s, hleads, herror⟩ := State.leads_of_run_error hrun
    have hrefuses := State.refuses_of_step herror
    rw [hreduced]
    exact .inr ⟨s, i.abort, hleads, hrefuses, hrefuses.escapes hprocessors hevaluator, rfl⟩

/-- A document with a condition that is no expression, and with includes of a file that is missing,
of one in an encoding that there is not, and of a region that ends before it starts, has a result.
-/
theorem Job.run_robust_broken :
    let text := "ifeval::[x]\ny\nendif::[]\ninclude::b[]\ninclude::c[encoding=x]\ninclude::c[tag=x]"
    let j : Job := { source := .text text, refuseFatal := false }
    let o : Output := { files := ⟨[(["c"], .file "// end::x[]\n// tag::x[]".toUTF8.toList)]⟩ }
    j.options.attributeEntries = .ok [] ∧ j.registry.isEmpty = true ∧
      ∃ r, (j.run "/" o).verdict = .ok r := by
  intro text j o
  refine ⟨rfl, rfl, ?_⟩
  let document : Document := ⟨text, none⟩
  let setting := document.setting o.files "/" j.options j.evaluator j.registry j.names
  have hsteps : (Loop.start setting document.name
      (.ofOptions [] (document.intrinsics setting.options.safeMode))
      ⟨document.lines setting.registry⟩).state.allWithin setting
        (fun s => (s.step setting).toOption.isSome = true) 9 = true := by
    decide +kernel
  rcases (j.run_robust "/" o rfl rfl rfl rfl rfl rfl).1 with
    hresult | ⟨s, abort, hleads, hrefuses, -⟩
  · exact hresult
  · obtain ⟨i, herror, -⟩ := hrefuses.step_eq
    have hstep := State.Leads.of_allWithin 9 hsteps hleads
    cases (congrArg (·.toOption.isSome) herror).symm.trans hstep

/-- A condition with an information separator before a number with a fraction ends the job. -/
theorem Job.run_robust_separator :
    let j : Job :=
      { source := .text "ifeval::[\x7bempty\x7d\x1c5.0 == 5]\ny\nendif::[]\n"
        refuseFatal := false }
    j.options.attributeEntries = .ok [] ∧ j.registry.isEmpty = true ∧
      (j.run "/" {}).verdict = .error (.numeral (.notAReal "\x1c5.0")) := by
  intro j
  refine ⟨rfl, rfl, ?_⟩
  let document : Document := ⟨"ifeval::[\x7bempty\x7d\x1c5.0 == 5]\ny\nendif::[]\n", none⟩
  let setting := document.setting {} "/" {} .standard {}
  have hstep : (Loop.start setting document.name
      (.ofOptions [] (document.intrinsics setting.options.safeMode))
      ⟨document.lines setting.registry⟩).state.step setting =
        .error ⟨.numeral (.notAReal "\x1c5.0"), #[]⟩ := by
    decide +kernel
  have hreduce := Buffer.reduce_of_run_error (State.run_of_error hstep)
  have hreduced : document.reduce setting [] =
      .error ⟨.numeral (.notAReal "\x1c5.0"), #[]⟩ := congrArg (Except.map _) hreduce
  rw [run_of_text rfl rfl, hreduced]
  rfl

end Transclude
