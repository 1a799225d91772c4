import Transclude.Proofs.Pairing

/-!
# What conditionals mean

A document of well-nested blocks is a tree. What it comes to is told by a recursion over the tree,
from left to right: a line is taken in, a condition is decided with the attributes reached so far,
and a block is read if its condition is true and left out if not. A reduction, which knows of lines
and open blocks only, comes to the same.

## Main definitions

* `Outline`         : a document as a tree of lines and blocks.
* `Reading`         : what is known after some part of a document.
* `Outline.meaning` : what is known after a tree.

## Main statements

* `Outline.comes`         : a reduction of the lines of a tree comes to the meaning of the tree.
* `Buffer.reduce_outline` : a reduction of a whole document does.
-/

namespace Transclude

open Transclude.Text

/-! ## Documents as trees -/

namespace Outline

/-- A line that is no directive: an ordinary line, an attribute entry, or a delimiter of a verbatim
block. -/
structure Plain where
  line : Line
  plain : Directive.ofLine? (strippedEnd line.text) = none

/-- A conditional that is complete in one line, with a text that is no directive. -/
structure Inline where
  line : Line
  opening : Opening
  text : String
  opens : Directive.ofLine? (strippedEnd line.text) = some (.opening opening)
  inline : opening.inlineText? = some text
  plain : Directive.ofLine? (strippedEnd text) = none

/-- The two lines of a block: its opening, which has a target just if it needs one, and its end,
which names the same target or none. -/
structure Block where
  line : Line
  opening : Opening
  opens : Directive.ofLine? (strippedEnd line.text) = some (.opening opening)
  block : opening.inlineText? = none
  targeted : opening.Targeted
  ending : Line
  closing : Closing
  closes : Directive.ofLine? (strippedEnd ending.text) = some (.closing closing)
  bare : closing.text = none
  named : closing.target = "" ∨ closing.target = opening.target

end Outline

/-- A document without includes, as a tree. -/
inductive Outline
  | done
  | line (l : Outline.Plain) (rest : Outline)
  | inline (l : Outline.Inline) (rest : Outline)
  | block (b : Outline.Block) (body rest : Outline)

/-- The lines of a tree. -/
def Outline.lines : Outline → List Line
  | .done => []
  | .line l rest => l.line :: rest.lines
  | .inline l rest => l.line :: rest.lines
  | .block b body rest => b.line :: (body.lines ++ b.ending :: rest.lines)

/-- What is known after some part of a document: the attributes, the verbatim block that is open, the
lines that it comes to, and what is wrong with it. -/
structure Reading where
  attributes : AttributeSet
  verbatim : Verbatim := none
  lines : List Line := []
  problems : List Diagnostic := []
  deriving DecidableEq, Repr

namespace Reading

/-- What is known after a line that is no directive. -/
def take (r : Reading) (line : Line) : Reading :=
  match Hit.ofLine? r.verbatim line.text with
  | (_, some (.entry e)) =>
    { r with attributes := (r.attributes.afterEntry? e).getD r.attributes
             lines := r.lines ++ [line] }
  | (verbatim, _) => { r with verbatim := verbatim, lines := r.lines ++ [line] }

/-- A line without a find may change the verbatim block. -/
theorem take_of_none {r : Reading} {line : Line} {verbatim : Verbatim}
    (h : Hit.ofLine? r.verbatim line.text = (verbatim, none)) :
    r.take line = { r with verbatim := verbatim, lines := r.lines ++ [line] } := by
  rw [take, h]

/-- An attribute entry may change the attributes. -/
theorem take_of_entry {r : Reading} {line : Line} {e : AttributeEntry}
    (h : Hit.ofLine? r.verbatim line.text = (r.verbatim, some (.entry e))) :
    r.take line = { r with attributes := (r.attributes.afterEntry? e).getD r.attributes
                           lines := r.lines ++ [line] } := by
  rw [take, h]

/-- Whether a condition is true, with the attributes reached so far. One without a truth value is
false, and wrong; but one with a number that cannot be read ends everything. -/
def judge (evaluator : Evaluator) (r : Reading) (d : Opening) (origin : Origin) :
    Except NumeralError (Bool × Reading) :=
  match d.decide evaluator r.attributes with
  | .ok answer => .ok (answer, r)
  | .error (.numeral e) => .error e
  | .error e =>
    let severity := if e.recoverable then Severity.warning else .fatal
    .ok (false, { r with problems := r.problems ++ [⟨severity, e.message, origin, .evaluation⟩] })

end Reading

/-- What is known after a tree. -/
def Outline.meaning (evaluator : Evaluator) : Outline → Reading → Except NumeralError Reading
  | .done, r => .ok r
  | .line l rest, r => rest.meaning evaluator (r.take l.line)
  | .inline l rest, r => do
    match ← r.judge evaluator l.opening l.line.origin with
    | (true, r) => rest.meaning evaluator (r.take ⟨l.text, l.line.origin⟩)
    | (false, r) => rest.meaning evaluator r
  | .block b body rest, r => do
    match ← r.judge evaluator b.opening b.line.origin with
    | (true, r) =>
      let r ← body.meaning evaluator r
      rest.meaning evaluator r
    | (false, r) => rest.meaning evaluator r

/-! ## Blocks that are left out -/

namespace BlockEnd

variable {targets : List String} {count : Nat}

/-- In a block that is left out, the end of a block inside it is passed over. -/
theorem advance_of_closing (b : Outline.Block) :
    advance (b.opening.target :: targets) (some (.closing b.closing)) = (targets, none) := by
  simp [advance, b.bare, b.named]

/-- In a block that is left out, a whole tree is passed over. -/
theorem findFrom_lines (o : Outline) (htargets : targets ≠ []) (count : Nat) (rest : List Line) :
    findFrom targets count (o.lines ++ rest) = findFrom targets (count + o.lines.length) rest := by
  induction o generalizing targets count rest with
  | done => rfl
  | line l more ih =>
    have hpassed : advance targets (Directive.ofLine? (strippedEnd l.line.text)) =
        (targets, none) := by rw [l.plain]; rfl
    rw [Outline.lines, List.cons_append, findFrom_of_passed hpassed htargets, ih htargets,
      List.length_cons, Nat.add_assoc, Nat.add_comm 1]
  | inline l more ih =>
    have hpassed : advance targets (Directive.ofLine? (strippedEnd l.line.text)) =
        (targets, none) := by rw [l.opens, advance_of_inline l.inline]
    rw [Outline.lines, List.cons_append, findFrom_of_passed hpassed htargets, ih htargets,
      List.length_cons, Nat.add_assoc, Nat.add_comm 1]
  | block b body more ihBody ih =>
    have hopened : advance targets (Directive.ofLine? (strippedEnd b.line.text)) =
        (b.opening.target :: targets, none) := by
      rw [b.opens, advance_of_block b.block b.targeted]
    have hended : advance (b.opening.target :: targets)
        (Directive.ofLine? (strippedEnd b.ending.text)) = (targets, none) := by
      rw [b.closes, advance_of_closing]
    have hnested := List.cons_ne_nil b.opening.target targets
    have hlength : count + (Outline.block b body more).lines.length =
        count + 1 + body.lines.length + 1 + more.lines.length := by
      simp only [Outline.lines, List.length_cons, List.length_append]
      omega
    rw [hlength, Outline.lines, List.cons_append, List.append_assoc, List.cons_append,
      findFrom_of_passed hopened hnested, ihBody hnested, findFrom_of_passed hended htargets,
      ih htargets]

/-- A block of a tree ends with its last line, and nothing is wrong in it. -/
theorem find_lines (b : Outline.Block) (body : Outline) (rest : List Line) :
    find b.opening.target (body.lines ++ b.ending :: rest) = ⟨some (body.lines.length + 1), []⟩ := by
  have hended : (advance [b.opening.target]
      (Directive.ofLine? (strippedEnd b.ending.text))).1 = [] := by
    rw [b.closes, advance_of_closing]
  rw [find, findFrom_lines body (List.cons_ne_nil _ _), findFrom_of_ended hended, Nat.zero_add]

end BlockEnd

/-! ## Reductions of trees -/

namespace State

/-- Whether a state knows what a reading says, with the given blocks open and the given lines still
to be read. -/
structure Knows (s : State) (r : Reading) (frames : List Frame) (pending : List Line) : Prop where
  attributes : s.attributes = r.attributes
  verbatim : s.verbatim = r.verbatim
  emitted : s.emitted.toList = r.lines
  problems : s.journal.diagnostics = r.problems
  frames : s.frames = frames
  pending : s.pending = pending

/-- Whether a state comes to what a tree means: to a state that knows it, or to a line at which the
reduction is interrupted because a number cannot be read. -/
def Comes (setting : Setting) (s : State) (frames : List Frame) (pending : List Line) :
    Except NumeralError Reading → Prop
  | .ok r => ∃ t, Leads setting s t ∧ t.Knows r frames pending
  | .error e => ∃ t i, Leads setting s t ∧ t.step setting = .error i ∧ i.abort = .numeral e

variable {setting : Setting} {s t : State} {r : Reading} {frames frames' : List Frame}
  {line : Line} {rest pending pending' : List Line} {x : Except NumeralError Reading}

/-- A state comes to what a state comes to that it leads to. -/
theorem Comes.of_leads (h : Leads setting s t) (ht : t.Comes setting frames pending x) :
    s.Comes setting frames pending x := by
  cases x with
  | ok r =>
    obtain ⟨u, hleads, hknows⟩ := ht
    exact ⟨u, h.trans hleads, hknows⟩
  | error e =>
    obtain ⟨u, i, hleads, herror⟩ := ht
    exact ⟨u, i, h.trans hleads, herror⟩

/-- A state that comes to one meaning, and from there to another, comes to both in turn. -/
theorem Comes.bind {f : Reading → Except NumeralError Reading}
    (h : s.Comes setting frames pending x)
    (hf : ∀ (t : State) (r : Reading), t.Knows r frames pending →
      t.Comes setting frames' pending' (f r)) :
    s.Comes setting frames' pending' (x >>= f) := by
  cases x with
  | ok r =>
    obtain ⟨t, hleads, hknows⟩ := h
    exact .of_leads hleads (hf t r hknows)
  | error e => exact h

namespace Knows

/-- A line that is no directive is taken in. -/
theorem after_of_plain (setting : Setting) (h : s.Knows r frames (line :: rest))
    (hactive : ∀ f ∈ frames, f.active = true)
    (hplain : Directive.ofLine? (strippedEnd line.text) = none) :
    ∃ t, After setting t s ∧ t.Knows (r.take line) frames rest := by
  have hstep : s.step setting = _ := step_of_cons h.pending
  cases hfound : Hit.ofLine? s.verbatim line.text with
  | mk verbatim found =>
    cases found with
    | none =>
      rw [onLine_of_none hfound] at hstep
      rw [h.verbatim] at hfound
      rw [Reading.take_of_none hfound]
      exact ⟨_, hstep, h.attributes, rfl, by simp [emit, withVerbatim, withContext, h.emitted],
        h.problems, h.frames, rfl⟩
    | some hit =>
      obtain rfl := Hit.verbatim_of_ofLine? hfound
      cases hit with
      | directive d =>
        rw [Hit.directive_of_ofLine? (by rw [hfound])] at hplain
        cases hplain
      | entry e =>
        have hcounts : s.toContext.active = true :=
          Context.active_of_frames (by rw [h.frames]; exact hactive)
        obtain ⟨journal, hjournal, heq⟩ := Context.afterEntry_of_active hcounts e
        rw [onLine_of_some hfound, onHit, heq] at hstep
        rw [h.verbatim] at hfound
        rw [Reading.take_of_entry hfound]
        refine ⟨_, hstep, ?_, h.verbatim, ?_, hjournal.trans h.problems, h.frames, rfl⟩
        · show (s.attributes.afterEntry? e).getD s.attributes = _
          rw [h.attributes]
        · show (s.emitted.push line).toList = _
          rw [Array.toList_push, h.emitted]

/-- A decision is that of the reading. -/
theorem judge (setting : Setting) (h : s.Knows r frames pending) (d : Opening) (origin : Origin) :
    match r.judge setting.evaluator d origin with
    | .ok (active, m) => ∃ c, s.toContext.judge setting d origin = .ok (active, c) ∧
        (s.withContext c).Knows m frames pending
    | .error e => ∃ i, s.toContext.judge setting d origin = .error i ∧ i.abort = .numeral e := by
  unfold Context.judge Reading.judge
  rw [h.attributes]
  cases d.decide setting.evaluator r.attributes with
  | ok answer =>
    exact ⟨_, rfl, h.attributes, h.verbatim, h.emitted, h.problems, h.frames, h.pending⟩
  | error e =>
    cases e with
    | numeral e => exact ⟨_, rfl, rfl⟩
    | _ =>
      -- the decision is reported, at the same place
      refine ⟨_, rfl, h.attributes, h.verbatim, h.emitted, ?_, h.frames, h.pending⟩
      refine (Journal.diagnostics_push _ _).trans ?_
      rw [h.problems]
      rfl

/-- A reduction comes from the opening of a conditional to what it comes to from either decision. -/
theorem comes_opening (h : s.Knows r frames (line :: rest)) {d : Opening}
    (hd : Directive.ofLine? (strippedEnd line.text) = some (.opening d))
    (hnormal : setting.options.preserveConditionals.meaning = false)
    {f : Bool × Reading → Except NumeralError Reading}
    (hf : ∀ (t : State) (active : Bool) (m : Reading), t.Knows m frames (line :: rest) →
      (t.onJudged line rest d active).Comes setting frames' pending' (f (active, m))) :
    s.Comes setting frames' pending' (r.judge setting.evaluator d line.origin >>= f) := by
  have hstep := step_of_opening_judged hnormal h.pending hd
  have hjudge := h.judge setting d line.origin
  cases hdecided : r.judge setting.evaluator d line.origin with
  | ok decided =>
    obtain ⟨active, m⟩ := decided
    rw [hdecided] at hjudge
    obtain ⟨c, hc, hknows⟩ := hjudge
    rw [hc] at hstep
    exact .of_leads (After.leads hstep) (hf _ active m hknows)
  | error e =>
    rw [hdecided] at hjudge
    obtain ⟨i, hi, habort⟩ := hjudge
    rw [hi] at hstep
    exact ⟨s, i, .refl s, hstep, habort⟩

/-- Other lines are still to be read. -/
theorem await (h : s.Knows r frames pending) (pending' : List Line) :
    (s.await pending').Knows r frames pending' :=
  ⟨h.attributes, h.verbatim, h.emitted, h.problems, h.frames, rfl⟩

/-- A true block is open. -/
theorem enter (h : s.Knows r frames pending) (d : Opening) (origin : Origin) :
    (s.withContext (s.enter d true origin)).Knows r (d.frame true origin :: frames) pending :=
  ⟨h.attributes, h.verbatim, h.emitted, h.problems, congrArg (_ :: ·) h.frames, h.pending⟩

/-- The last line of a block ends it. -/
theorem after_of_closing {b : Outline.Block} {origin : Origin}
    (h : s.Knows r (b.opening.frame true origin :: frames) (b.ending :: rest))
    (hnormal : setting.options.preserveConditionals.meaning = false) :
    ∃ t, After setting t s ∧ t.Knows r frames rest := by
  have hclose : Frame.close s.frames b.closing = .ok frames := by
    rw [h.frames]
    exact Frame.close_of_ends b.bare b.named
  have hafter : After setting
      ((s.withContext { s.toContext with frames := frames }).await rest) s := by
    rw [After, step_of_closing_dropped hnormal h.pending b.closes, Context.afterClosing, hclose]
  exact ⟨_, hafter, h.attributes, h.verbatim, h.emitted, h.problems, rfl, rfl⟩

/-- A false block is dropped up to where it ends. -/
theorem skip_of_find {d : Opening} {n : Nat} (h : s.Knows r frames pending) (line : Line)
    (hfound : BlockEnd.find d.target rest = ⟨some n, []⟩) :
    (s.skip line rest d).Knows r frames (rest.drop n) := by
  rw [skip_of_some (by rw [hfound]), hfound]
  exact ⟨h.attributes, h.verbatim, h.emitted, h.problems, h.frames, rfl⟩

/-- A false block is dropped with its last line. -/
theorem skip {b : Outline.Block} {body : Outline} (h : s.Knows r frames pending) (rest : List Line) :
    (s.skip b.line (body.lines ++ b.ending :: rest) b.opening).Knows r frames rest := by
  have hskip := h.skip_of_find b.line (BlockEnd.find_lines b body rest)
  have hdrop : (body.lines ++ b.ending :: rest).drop (body.lines.length + 1) = rest := by
    rw [List.drop_append]
    simp
  rwa [hdrop] at hskip

end Knows

end State

/-- A reduction of the lines of a tree, with others after them, comes to the meaning of the tree, and
opens or ends no block in all. -/
theorem Outline.comes {setting : Setting}
    (hnormal : setting.options.preserveConditionals.meaning = false) (o : Outline) {s : State}
    {r : Reading} {frames : List Frame} {rest : List Line}
    (hactive : ∀ f ∈ frames, f.active = true) (h : s.Knows r frames (o.lines ++ rest)) :
    s.Comes setting frames rest (o.meaning setting.evaluator r) := by
  -- by induction on the tree, for all lines after it and all true blocks around it
  induction o generalizing s r frames rest with
  | done => exact ⟨s, .refl s, h⟩
  | line l more ih =>
    obtain ⟨t, hafter, ht⟩ := h.after_of_plain setting hactive l.plain
    exact .of_leads hafter.leads (ih hactive ht)
  | inline l more ih =>
    refine h.comes_opening l.opens hnormal fun t active m ht => ?_
    unfold State.onJudged
    rw [l.inline]
    cases active with
    | true =>
      -- the text is the next line
      have ht := ht.await (⟨l.text, l.line.origin⟩ :: (more.lines ++ rest))
      obtain ⟨u, hafter, hu⟩ := ht.after_of_plain setting hactive l.plain
      exact .of_leads hafter.leads (ih hactive hu)
    | false => exact ih hactive (ht.await _)
  | block b body more ihBody ih =>
    rw [Outline.lines, List.cons_append, List.append_assoc, List.cons_append] at h
    refine h.comes_opening b.opens hnormal fun t active m ht => ?_
    unfold State.onJudged
    rw [b.block]
    cases active with
    | true =>
      have hwithin : ∀ f ∈ b.opening.frame true b.line.origin :: frames, f.active = true := by
        intro f hf
        rcases List.mem_cons.1 hf with rfl | hf
        · rfl
        · exact hactive f hf
      have hbody := ihBody hwithin ((ht.enter b.opening b.line.origin).await
        (body.lines ++ b.ending :: (more.lines ++ rest)))
      refine hbody.bind fun u m hu => ?_
      obtain ⟨v, hafter, hv⟩ := hu.after_of_closing hnormal
      exact .of_leads hafter.leads (ih hactive hv)
    | false => exact ih hactive (ht.skip (more.lines ++ rest))

/-- A decision finds at most a condition without a truth value. -/
theorem Reading.evaluation_of_judge {evaluator : Evaluator} {r m : Reading} {d : Opening}
    {origin : Origin} {active : Bool} (h : r.judge evaluator d origin = .ok (active, m))
    (hr : ∀ d ∈ r.problems, d.category = .evaluation) :
    ∀ d ∈ m.problems, d.category = .evaluation := by
  unfold judge at h
  split at h
  · cases h
    exact hr
  · cases h
  · cases h
    intro p hp
    rcases List.mem_append.1 hp with hp | hp
    · exact hr p hp
    · rw [List.mem_singleton.1 hp]

/-- All that is wrong with a tree are conditions without a truth value. -/
theorem Outline.evaluation_of_meaning {evaluator : Evaluator} (o : Outline) {r m : Reading}
    (h : o.meaning evaluator r = .ok m) (hr : ∀ d ∈ r.problems, d.category = .evaluation) :
    ∀ d ∈ m.problems, d.category = .evaluation := by
  have htake : ∀ {r : Reading} (line : Line), (∀ d ∈ r.problems, d.category = .evaluation) →
      ∀ d ∈ (r.take line).problems, d.category = .evaluation := by
    intro r line hr
    unfold Reading.take
    split <;> exact hr
  induction o generalizing r m with
  | done =>
    cases h
    exact hr
  | line l more ih => exact ih h (htake l.line hr)
  | inline l more ih =>
    obtain ⟨⟨active, r'⟩, hjudge, hmore⟩ := eq_ok_of_bind h
    have hr' := Reading.evaluation_of_judge hjudge hr
    cases active with
    | true => exact ih hmore (htake _ hr')
    | false => exact ih hmore hr'
  | block b body more ihBody ih =>
    obtain ⟨⟨active, r'⟩, hjudge, hmore⟩ := eq_ok_of_bind h
    have hr' := Reading.evaluation_of_judge hjudge hr
    cases active with
    | true =>
      obtain ⟨r'', hbody, hmore⟩ := eq_ok_of_bind hmore
      exact ih hmore (ihBody hbody hr')
    | false => exact ih hmore hr'

/-- At the start nothing of a document is taken in. -/
theorem State.knows_start (setting : Setting) (file : String) (attributes : AttributeSet)
    (o : Outline) : (Loop.start setting file attributes ⟨o.lines⟩).state.Knows
      { attributes := attributes } [] (o.lines ++ []) :=
  ⟨rfl, rfl, rfl, rfl, rfl, (List.append_nil _).symm⟩

/-- Unless conditionals are preserved, the reduction of a document of well-nested blocks comes to the
lines and the attributes that the tree of the document means. A diagnostic is found for each
condition on the way that has no truth value, and no other. Where a number in a condition on the way
cannot be read, the reduction is interrupted. -/
theorem Buffer.reduce_outline (setting : Setting) (file : String) (attributes : AttributeSet)
    (o : Outline) (hnormal : setting.options.preserveConditionals.meaning = false) :
    (∀ m, o.meaning setting.evaluator { attributes := attributes } = .ok m →
        ∃ r journal, Buffer.reduce setting file attributes ⟨o.lines⟩ = .ok (r, journal) ∧
          r.lines = m.lines ∧ r.attributes = m.attributes.values ∧ r.diagnostics = m.problems ∧
          ∀ d ∈ r.diagnostics, d.category = .evaluation) ∧
      ∀ e, o.meaning setting.evaluator { attributes := attributes } = .error e →
        ∃ i, Buffer.reduce setting file attributes ⟨o.lines⟩ = .error i ∧
          i.abort = .numeral e := by
  have hstart := State.knows_start setting file attributes o
  have hcomes := o.comes hnormal (fun f hf => absurd hf List.not_mem_nil) hstart
  rw [Buffer.reduce, Loop.run_eq]
  refine ⟨fun m hmeaning => ?_, fun e hmeaning => ?_⟩
  · rw [hmeaning] at hcomes
    obtain ⟨⟨c, emitted, pending⟩, hleads, ht⟩ := hcomes
    obtain rfl : pending = [] := ht.pending
    have hframes : c.frames = [] := ht.frames
    rw [State.run_of_leads hleads, State.run_of_nil]
    -- no block is open at the end, so none is reported there
    have hfinish : c.finish = c := by
      rw [Context.finish, hframes]
      rfl
    have hproblems : c.finish.journal.diagnostics = m.problems := by
      rw [hfinish]
      exact ht.problems
    refine ⟨_, _, rfl, ht.emitted, ?_, hproblems, fun d hd => ?_⟩
    · show c.finish.attributes.values = _
      rw [hfinish]
      exact congrArg AttributeSet.values ht.attributes
    · refine o.evaluation_of_meaning hmeaning (fun _ hd => absurd hd List.not_mem_nil) d ?_
      rwa [← hproblems]
  · rw [hmeaning] at hcomes
    obtain ⟨t, i, hleads, herror, habort⟩ := hcomes
    rw [State.run_of_leads hleads, State.run_of_error herror]
    exact ⟨i, rfl, habort⟩

/-- A document without files beside it: an entry in a true block decides a condition after it, and
nothing is left of a false block. -/
theorem Buffer.reduce_outline_nested :
    let setting : Setting := { cwd := "/", jail := ⟨.free, "/", none⟩, rootDirectory := "/" }
    let line : String → Line := fun text => ⟨text, { file := "a", line := 1 }⟩
    setting.options.preserveConditionals.meaning = false ∧
      ∃ r journal, Buffer.reduce setting "a" { values := [("x", "")] }
          ⟨["ifdef::x[]", ":y: 2", "endif::x[]", "ifdef::y[b]", "ifdef::z[]", "c",
            "endif::[]"].map line⟩ = .ok (r, journal) ∧
        r.lines = [":y: 2", "b"].map line ∧ r.attributes = [("x", ""), ("y", "2")] ∧
        r.diagnostics = [] := by
  intro setting line
  let first : Outline.Block :=
    { line := line "ifdef::x[]"
      opening := .presence ⟨"ifdef::x[]", false, "x", none, ["x"], .single⟩
      opens := by decide +kernel
      block := rfl
      targeted := by decide
      ending := line "endif::x[]"
      closing := ⟨"endif::x[]", "x", none⟩
      closes := by decide +kernel
      bare := rfl
      named := .inr rfl }
  let second : Outline.Block :=
    { line := line "ifdef::z[]"
      opening := .presence ⟨"ifdef::z[]", false, "z", none, ["z"], .single⟩
      opens := by decide +kernel
      block := rfl
      targeted := by decide
      ending := line "endif::[]"
      closing := ⟨"endif::[]", "", none⟩
      closes := by decide +kernel
      bare := rfl
      named := .inl rfl }
  let inline : Outline.Inline :=
    { line := line "ifdef::y[b]"
      opening := .presence ⟨"ifdef::y[b]", false, "y", some "b", ["y"], .single⟩
      text := "b"
      opens := by decide +kernel
      inline := rfl
      plain := by decide +kernel }
  let o : Outline :=
    .block first (.line ⟨line ":y: 2", by decide +kernel⟩ .done)
      (.inline inline (.block second (.line ⟨line "c", by decide +kernel⟩ .done) .done))
  have hmeaning : o.meaning setting.evaluator { attributes := { values := [("x", "")] } } =
      .ok { attributes := { values := [("x", ""), ("y", "2")] }
            lines := [":y: 2", "b"].map line } := by decide +kernel
  have hlines : o.lines = ["ifdef::x[]", ":y: 2", "endif::x[]", "ifdef::y[b]", "ifdef::z[]", "c",
      "endif::[]"].map line := rfl
  obtain ⟨r, journal, hr, htexts, hattributes, hdiagnostics, -⟩ :=
    (Buffer.reduce_outline setting "a" { values := [("x", "")] } o rfl).1 _ hmeaning
  rw [hlines] at hr
  exact ⟨rfl, r, journal, hr, htexts, hattributes, hdiagnostics⟩

/-- A document without files beside it, with a condition in which a number cannot be read: the
condition is not taken for false, and the reduction is interrupted. -/
theorem Buffer.reduce_outline_interrupted :
    let setting : Setting := { cwd := "/", jail := ⟨.free, "/", none⟩, rootDirectory := "/" }
    let line : String → Line := fun text => ⟨text, { file := "a", line := 1 }⟩
    ∃ o : Outline, setting.options.preserveConditionals.meaning = false ∧
      o.lines = ["ifeval::[\x7bx\x7d == 5]", "y", "endif::[]", "z"].map line ∧
      Buffer.reduce setting "a" { values := [("x", "\x1c5")] } ⟨o.lines⟩ =
        .error ⟨.numeral (.notAnInteger 10 "\x1c5"), #[]⟩ := by
  intro setting line
  let b : Outline.Block :=
    { line := line "ifeval::[\x7bx\x7d == 5]"
      opening := .comparison ⟨"ifeval::[\x7bx\x7d == 5]", "", some "\x7bx\x7d == 5"⟩
      opens := by decide +kernel
      block := rfl
      targeted := by decide
      ending := line "endif::[]"
      closing := ⟨"endif::[]", "", none⟩
      closes := by decide +kernel
      bare := rfl
      named := .inl rfl }
  let o : Outline := .block b (.line ⟨line "y", by decide +kernel⟩ .done)
    (.line ⟨line "z", by decide +kernel⟩ .done)
  have hstep : (Loop.start setting "a" { values := [("x", "\x1c5")] } ⟨o.lines⟩).state.step
      setting = .error ⟨.numeral (.notAnInteger 10 "\x1c5"), #[]⟩ := by decide +kernel
  have hlines : o.lines = ["ifeval::[\x7bx\x7d == 5]", "y", "endif::[]", "z"].map line := rfl
  refine ⟨o, rfl, hlines, ?_⟩
  rw [Buffer.reduce, Loop.run_eq, State.run_of_error hstep]
  rfl

end Transclude
