import Transclude.Proofs.Splicing

/-!
# Reducing a result again

A reduction leaves nothing to be reduced. Every line of the result was emitted, and a line is
emitted only if it is no include, and, unless conditionals are preserved, no directive at all. A
second reduction of the texts of the result meets each of them with the attributes, the verbatim
block and the open blocks with which the first one emitted it, and so emits it as well.

## Main definitions

* `Line.Final`      : what holds of the lines of a result.
* `Context.Repeats` : what a second reduction knows where a first one knows something.

## Main statements

* `State.Rule.repeats` : a step of the first reduction emits nothing, or is a step of the second.
* `Buffer.reduce_fixed` : the result of reducing a result has the same texts and attributes.
-/

namespace Transclude

open Transclude.Text

/-- Whether a reduction is through with a line: it is no include, and no directive at all unless
conditionals are preserved. -/
def Line.Final (preserved : Bool) (line : Line) : Prop :=
  (∀ d, Directive.ofLine? (strippedEnd line.text) ≠ some (.include d)) ∧
    (preserved = false → Directive.ofLine? (strippedEnd line.text) = none)

/-- A line that is no directive is final. -/
theorem Line.Final.of_none {preserved : Bool} {line : Line}
    (h : Directive.ofLine? (strippedEnd line.text) = none) : line.Final preserved := by
  refine ⟨fun d hd => ?_, fun _ => h⟩
  rw [h] at hd
  cases hd

/-- A conditional is final if it is preserved. -/
theorem Line.Final.of_preserved {preserved : Bool} {line : Line} {d : Directive}
    (h : Directive.ofLine? (strippedEnd line.text) = some d) (hd : ∀ i, d ≠ .include i)
    (hpreserved : preserved = true) : line.Final preserved := by
  refine ⟨fun i hi => ?_, fun hnormal => ?_⟩
  · rw [h] at hi
    exact hd i (Option.some.inj hi)
  · rw [hpreserved] at hnormal
    cases hnormal

/-- What a block is but for the origin of its opening. -/
def Frame.signature (f : Frame) : String × String × Bool := (f.raw, f.target, f.active)

/-- An `endif` does the same to blocks that differ in origins only. -/
theorem Frame.close_signature {frames frames' : List Frame}
    (h : frames'.map signature = frames.map signature) (d : Closing) :
    (close frames' d).map (·.map signature) = (close frames d).map (·.map signature) := by
  unfold close
  cases d.text with
  | some _ => rfl
  | none =>
    cases frames with
    | nil =>
      rw [List.map_eq_nil_iff.1 h]
    | cons f frames =>
      obtain ⟨f', rest', rfl, hhead, hrest⟩ := List.map_eq_cons_iff.1 h
      simp only [signature, Prod.mk.injEq] at hhead
      obtain ⟨-, htarget, -⟩ := hhead
      dsimp only
      rw [htarget]
      split
      · rfl
      · exact congrArg Except.ok hrest

namespace Context

/-- What a second reduction knows where the first one knows `c`. If conditionals are preserved, the
same blocks are open in both. If not, all blocks that are open in the first one are true, none is
open in the second, and nothing is wrong there. -/
structure Repeats (preserved : Bool) (c c' : Context) : Prop where
  attributes : c'.attributes = c.attributes
  verbatim : c'.verbatim = c.verbatim
  kept : preserved = true → c'.frames.map Frame.signature = c.frames.map Frame.signature
  dropped : preserved = false →
    (∀ f ∈ c.frames, f.active = true) ∧ c'.frames = [] ∧ c'.journal.diagnostics = []

variable {preserved : Bool} {c c' : Context}

/-- What a first reduction knows about its directories, and what happened in it, makes no
difference to a second one. -/
theorem Repeats.of_first (h : Repeats preserved c c') (directories : Table String)
    (journal : Journal) :
    Repeats preserved { c with directories := directories, journal := journal } c' :=
  ⟨h.attributes, h.verbatim, h.kept, h.dropped⟩

/-- Another verbatim block in both. -/
theorem Repeats.withVerbatim (h : Repeats preserved c c') (verbatim : Verbatim) :
    Repeats preserved { c with verbatim := verbatim } { c' with verbatim := verbatim } :=
  ⟨h.attributes, rfl, h.kept, h.dropped⟩

/-- Entries count in both or in neither. -/
theorem Repeats.active_eq (h : Repeats preserved c c') : c'.active = c.active := by
  cases preserved with
  | true =>
    have hframes := congrArg (fun frames => (frames.head?.map (·.2.2)).getD true) (h.kept rfl)
    simpa [active, Frame.signature, Function.comp_def] using hframes
  | false =>
    -- entries count in a true block as they do outside of all blocks
    obtain ⟨hactive, hnone, -⟩ := h.dropped rfl
    rw [active_of_frames hactive, active, hnone]
    rfl

/-- An entry does the same in both. -/
theorem Repeats.afterEntry (h : Repeats preserved c c') (e : AttributeEntry) :
    Repeats preserved (c.afterEntry e) (c'.afterEntry e) := by
  -- that an entry is ignored is noted in the log only, which is no diagnostic
  have hremark : ∀ message, Repeats preserved (c.log (.remark .reduction message))
      (c'.log (.remark .reduction message)) := by
    intro message
    refine ⟨h.attributes, h.verbatim, h.kept, fun hnormal => ?_⟩
    obtain ⟨hactive, hnone, hquiet⟩ := h.dropped hnormal
    exact ⟨hactive, hnone, by simp [log, Event.remark, Event.diagnostic?, hquiet]⟩
  unfold Context.afterEntry
  rw [h.active_eq, h.attributes]
  split
  · split
    · exact ⟨rfl, h.verbatim, h.kept, h.dropped⟩
    · exact hremark _
  · exact hremark _

/-- In a second reduction that preserves conditionals, the journal makes no difference. -/
theorem Repeats.of_kept (hattributes : c'.attributes = c.attributes)
    (hverbatim : c'.verbatim = c.verbatim)
    (hframes : c'.frames.map Frame.signature = c.frames.map Frame.signature) :
    Repeats true c c' :=
  ⟨hattributes, hverbatim, fun _ => hframes, fun h => nomatch h⟩

/-- The end of a block that is preserved does the same in both. -/
theorem Repeats.afterClosing (h : Repeats true c c') (d : Closing) (origin origin' : Origin) :
    Repeats true (c.afterClosing d origin) (c'.afterClosing d origin') := by
  have hclose := Frame.close_signature (h.kept rfl) d
  unfold Context.afterClosing
  cases hfirst : Frame.close c.frames d with
  | ok frames =>
    rw [hfirst] at hclose
    obtain ⟨frames', hsecond, hframes⟩ := eq_ok_of_map hclose
    rw [hsecond]
    exact .of_kept h.attributes h.verbatim hframes
  | error problem =>
    rw [hfirst] at hclose
    rw [eq_error_of_map hclose]
    exact .of_kept h.attributes h.verbatim (h.kept rfl)

/-- A dropped end of a block leaves true blocks only. -/
theorem Repeats.dropClosing (h : Repeats false c c') (d : Closing) (origin : Origin) :
    Repeats false (c.afterClosing d origin) c' := by
  obtain ⟨hactive, hnone, hquiet⟩ := h.dropped rfl
  have hframes : ∀ f ∈ (c.afterClosing d origin).frames, f.active = true :=
    fun f hf => hactive f (mem_frames_afterClosing hf)
  obtain ⟨frames, journal, heq, -⟩ := c.afterClosing_eq d origin
  rw [heq] at hframes ⊢
  exact ⟨h.attributes, h.verbatim, fun hd => (nomatch hd), fun _ => ⟨hframes, hnone, hquiet⟩⟩

variable {setting again : Setting} {d : Opening} {origin : Origin} {active : Bool} {after : Context}

/-- The opening of a block that is preserved is decided alike in both. -/
theorem Repeats.judge (h : Repeats true c c') (hevaluator : again.evaluator = setting.evaluator)
    (hjudge : c.judge setting d origin = .ok (active, after)) (origin' : Origin) :
    ∃ after', c'.judge again d origin' = .ok (active, after') ∧ Repeats true after after' := by
  unfold Context.judge at hjudge ⊢
  rw [hevaluator, h.attributes]
  split at hjudge
  · cases hjudge
    exact ⟨c', rfl, h⟩
  · cases hjudge
  · cases hjudge
    exact ⟨_, rfl, .of_kept h.attributes h.verbatim (h.kept rfl)⟩

/-- The opening of a block that is preserved is decided alike in both, within open blocks. -/
theorem Repeats.judgeWithin (h : Repeats true c c')
    (hevaluator : again.evaluator = setting.evaluator)
    (hjudge : c.judgeWithin setting d origin = .ok (active, after)) (origin' : Origin) :
    ∃ after', c'.judgeWithin again d origin' = .ok (active, after') ∧
      Repeats true after after' := by
  unfold Context.judgeWithin at hjudge ⊢
  rw [h.active_eq]
  split at hjudge
  · rename_i hactive
    rw [if_pos hactive]
    exact h.judge hevaluator hjudge origin'
  · rename_i hactive
    cases hjudge
    rw [if_neg hactive]
    exact ⟨c', rfl, h⟩

/-- A block that is preserved is open in both. -/
theorem Repeats.enter (h : Repeats true c c') (d : Opening) (active : Bool)
    (origin origin' : Origin) :
    Repeats true (c.enter d active origin) (c'.enter d active origin') := by
  refine .of_kept h.attributes h.verbatim ?_
  simp only [Context.enter, List.map_cons, h.kept rfl]
  rfl

/-- The opening of a true block is dropped, and no block is open in the second reduction. -/
theorem Repeats.dropOpening (h : Repeats false c c') (d : Opening) (origin : Origin) :
    Repeats false (c.enter d true origin) c' := by
  obtain ⟨hactive, hnone, hquiet⟩ := h.dropped rfl
  refine ⟨h.attributes, h.verbatim, fun hd => (nomatch hd), fun _ => ⟨?_, hnone, hquiet⟩⟩
  intro f hf
  rcases List.mem_cons.1 hf with rfl | hf
  · rfl
  · exact hactive f hf

end Context

namespace State

variable {setting again : Setting} {s t u : State} {line : Line} {rest : List Line}

/-- What a step of a first reduction means for a second one, in which the lines emitted so far are
emitted too: nothing if it emits no line, and if it emits one, a step that emits it as well. -/
inductive Echo (setting again : Setting) (s t u : State) (line : Line) : Prop
  | silent (emitted : t.emitted = s.emitted)
    (repeats : Context.Repeats setting.options.preserveConditionals.meaning t.toContext u.toContext)
  | emits (emitted : t.emitted = s.emitted.push line)
    (final : line.Final setting.options.preserveConditionals.meaning)
    (follows : ∀ line' rest', line'.text = line.text →
      ∃ v, u.onLine again line' rest' = .ok v ∧ v.emitted = u.emitted.push line' ∧
        v.pending = rest' ∧
        Context.Repeats setting.options.preserveConditionals.meaning t.toContext v.toContext)

/-- A line that the scan takes for no directive is emitted by both. -/
theorem Echo.of_other (hother : ∀ d, (Hit.ofLine? s.verbatim line.text).2 ≠ some (.directive d))
    (emitted : t.emitted = s.emitted.push line)
    (follows : ∀ line' rest', line'.text = line.text →
      ∃ v, u.onLine again line' rest' = .ok v ∧ v.emitted = u.emitted.push line' ∧
        v.pending = rest' ∧
        Context.Repeats setting.options.preserveConditionals.meaning t.toContext v.toContext) :
    Echo setting again s t u line :=
  .emits emitted (.of_none (Hit.not_directive_of_ofLine? hother)) follows

/-- A conditional that is preserved is emitted by both. -/
theorem Echo.of_conditional {d : Directive}
    (directive : Directive.ofLine? (strippedEnd line.text) = some d) (hd : ∀ i, d ≠ .include i)
    (preserved : setting.options.preserveConditionals.meaning = true)
    (emitted : t.emitted = s.emitted.push line)
    (follows : ∀ line' rest', ∃ v, u.onHit again line' rest' (.directive d) = .ok v ∧
      v.emitted = u.emitted.push line' ∧ v.pending = rest' ∧
      Context.Repeats true t.toContext v.toContext) :
    Echo setting again s t u line := by
  refine .emits emitted (.of_preserved directive hd preserved) fun line' rest' htext => ?_
  obtain ⟨v, hv, hvemitted, hvpending, hvrepeats⟩ := follows line' rest'
  have hfound : Hit.ofLine? u.verbatim line'.text = (u.verbatim, some (.directive d)) := by
    refine Hit.ofLine?_of_directive u.verbatim ?_
    rw [htext, directive]
  refine ⟨v, ?_, hvemitted, hvpending, ?_⟩
  · rw [onLine_of_some hfound, hv]
  · rw [preserved]
    exact hvrepeats

/-- A step of the first reduction emits nothing, or is a step of the second. -/
theorem Rule.repeats (h : Rule setting s line rest t)
    (hoptions : again.options = setting.options) (hevaluator : again.evaluator = setting.evaluator)
    (hrepeats : Context.Repeats setting.options.preserveConditionals.meaning
      s.toContext u.toContext) :
    Echo setting again s t u line := by
  -- a line of the same text is found to be what the line of the first reduction was found to be
  have hsame : ∀ {line' : Line} {verbatim : Verbatim} {found : Option Hit},
      line'.text = line.text → Hit.ofLine? s.verbatim line.text = (verbatim, found) →
        Hit.ofLine? u.verbatim line'.text = (verbatim, found) := by
    intro line' verbatim found htext hfound
    rw [hrepeats.verbatim, htext, hfound]
  cases h with
  | plain verbatim nothing =>
    refine .of_other (fun d hd => ?_) rfl fun line' rest' htext => ?_
    · rw [nothing] at hd
      cases hd
    · exact ⟨_, onLine_of_none (hsame htext nothing), rfl, rfl, hrepeats.withVerbatim verbatim⟩
  | entry e found =>
    refine .of_other (fun d hd => ?_) rfl fun line' rest' htext => ?_
    · rw [found] at hd
      cases hd
    · have hfound : Hit.ofLine? u.verbatim line'.text = (u.verbatim, some (.entry e)) := by
        rw [hsame htext found, hrepeats.verbatim]
      exact ⟨_, onLine_of_some hfound, rfl, rfl, hrepeats.afterEntry e⟩
  -- these directives emit nothing, so the second reduction has no line for them
  | inclusion d lines c _ resolved =>
    obtain ⟨directories, journal, rfl⟩ := Context.eq_of_resolve resolved
    exact .silent rfl (hrepeats.of_first directories journal)
  | closingDropped d _ normal =>
    refine .silent rfl ?_
    rw [normal] at hrepeats ⊢
    exact hrepeats.dropClosing d line.origin
  | inlineTrue d text c _ _ _ judged | inlineFalse d text c _ _ _ judged =>
    obtain ⟨journal, rfl, -⟩ := Context.eq_of_judge judged
    exact .silent rfl (hrepeats.of_first s.directories journal)
  | blockTrue d c _ normal _ judged =>
    obtain ⟨journal, rfl, -⟩ := Context.eq_of_judge judged
    refine .silent rfl ?_
    rw [normal] at hrepeats ⊢
    exact (hrepeats.of_first s.directories journal).dropOpening d line.origin
  | blockFalse d c _ _ _ judged =>
    obtain ⟨journal, rfl, -⟩ := Context.eq_of_judge judged
    obtain ⟨hemitted, journal', heq, -⟩ :=
      skip_eq (s.withContext { s.toContext with journal := journal }) line rest d
    refine .silent hemitted ?_
    rw [heq]
    exact hrepeats.of_first s.directories journal'
  -- the rewritten lines are still to be read, so it is their steps that are repeated
  | inlineRewritten d text => exact .silent rfl hrepeats
  -- a line that is kept is the same directive for the second reduction
  | closingKept d directive preserved =>
    rw [preserved] at hrepeats
    refine .of_conditional directive (by simp) preserved rfl fun line' rest' =>
      ⟨(u.withContext (u.afterClosing d line'.origin)).emit line' rest', ?_, rfl, rfl,
        hrepeats.afterClosing d line.origin line'.origin⟩
    rw [onHit, onClosing, hoptions, if_pos preserved]
  | inlineKept d text directive preserved inline other =>
    rw [preserved] at hrepeats
    refine .of_conditional directive (by simp) preserved rfl fun line' rest' =>
      ⟨u.emit line' rest', ?_, rfl, rfl, hrepeats⟩
    rw [onHit, hoptions, if_pos preserved, onPreserved, inline]
    dsimp only
    rw [if_neg (by rw [other]; exact Bool.false_ne_true)]
  | blockKept d active c directive preserved block judged =>
    rw [preserved] at hrepeats
    refine .of_conditional directive (by simp) preserved rfl fun line' rest' => ?_
    obtain ⟨c', hjudged, hafter⟩ := hrepeats.judgeWithin hevaluator judged line'.origin
    refine ⟨(u.withContext (c'.enter d active line'.origin)).emit line' rest', ?_, rfl, rfl,
      hafter.enter d active line.origin line'.origin⟩
    rw [onHit, hoptions, if_pos preserved, onPreserved, block]
    dsimp only
    rw [hjudged]
    rfl

/-- All lines that a first reduction comes to are final, and a second reduction of their texts emits
them all, and knows at its end what the first one knows. -/
theorem run_repeats {lines : List Line} {c : Context} (h : s.run setting = .ok (lines, c))
    (hoptions : again.options = setting.options) (hevaluator : again.evaluator = setting.evaluator)
    (hfinal : ∀ line ∈ s.emitted.toList, line.Final setting.options.preserveConditionals.meaning)
    (hrepeats : Context.Repeats setting.options.preserveConditionals.meaning
      s.toContext u.toContext)
    (htexts : (s.emitted.toList ++ u.pending).map (·.text) = lines.map (·.text)) :
    (∀ line ∈ lines, line.Final setting.options.preserveConditionals.meaning) ∧
      ∃ c', u.run again = .ok (u.emitted.toList ++ u.pending, c') ∧
        Context.Repeats setting.options.preserveConditionals.meaning c c' := by
  -- by induction on the first run: the second has emitted the same texts, and is still to read
  -- those that the first is to emit
  fun_induction State.run setting s generalizing u with
  | case1 s hstep =>
    cases h
    have hnone : u.pending = [] := by
      have hlength := congrArg List.length htexts
      simp only [List.length_map, List.length_append] at hlength
      exact List.length_eq_zero_iff.1 (by omega)
    obtain ⟨c', emitted, pending⟩ := u
    dsimp only at hnone
    subst hnone
    refine ⟨hfinal, c', ?_, hrepeats⟩
    rw [run_of_nil, List.append_nil]
  | case2 s t hstep ih =>
    obtain ⟨line, rest, -, honLine⟩ := onLine_of_step hstep
    cases (rule_of_onLine honLine).repeats hoptions hevaluator hrepeats with
    | silent emitted repeats => exact ih h (by rwa [emitted]) repeats (by rw [emitted, htexts])
    | emits emitted final follows =>
      -- the next text of the second run is the one that was emitted just now
      obtain ⟨more, rfl⟩ := emitted_of_run h
      rw [emitted, Array.toList_push, List.append_assoc, List.map_append, List.map_append,
        List.append_cancel_left_eq, List.singleton_append, List.map_cons] at htexts
      obtain ⟨line', rest', hpending, htext, hrest⟩ := List.map_eq_cons_iff.1 htexts
      obtain ⟨v, hv, hvemitted, hvpending, hvrepeats⟩ := follows line' rest' htext
      have hafter : After again v u := by
        rw [After, step_of_cons hpending, hv]
        rfl
      have htfinal : ∀ l ∈ t.emitted.toList,
          l.Final setting.options.preserveConditionals.meaning := by
        intro l hl
        rw [emitted, Array.toList_push] at hl
        rcases List.mem_append.1 hl with hl | hl
        · exact hfinal l hl
        · rw [List.mem_singleton.1 hl]
          exact final
      obtain ⟨hlines, c', hrun, hc'⟩ := ih h htfinal hvrepeats (by
        rw [emitted, hvpending]
        simp [hrest])
      refine ⟨hlines, c', ?_, hc'⟩
      rw [run_of_after hafter, hrun, hvemitted, hvpending, hpending]
      simp
  | case3 s i hstep => cases h

end State

/-- At their starts, a second reduction knows what the first one knows. -/
theorem Context.repeats_start (preserved : Bool) (setting again : Setting) (file file' : String)
    (attributes : AttributeSet) :
    Repeats preserved (.start setting file attributes) (.start again file' attributes) :=
  ⟨rfl, rfl, fun _ => rfl, fun _ => ⟨fun _ hf => (nomatch hf), rfl, rfl⟩⟩

/-- The report of blocks that were never ended leaves the attributes as they are. -/
theorem Context.attributes_finish (c : Context) : c.finish.attributes = c.attributes := by
  obtain ⟨journal, heq, -⟩ :=
    c.reportAll_eq (c.frames.reverse.map fun frame => (unterminated frame.raw, frame.origin))
  rw [finish, heq]

/-- A reduction leaves no include, and no directive at all unless conditionals are preserved. A
second one, under the same options and with the same attributes at its start, of any buffer with the
texts of the result leaves every line as it is, and ends with the same attributes. Unless
conditionals are preserved it finds nothing wrong. -/
theorem Buffer.reduce_fixed {setting : Setting} {file : String} {attributes : AttributeSet}
    {b : Buffer} {r : Result} {journal : Journal}
    (h : b.reduce setting file attributes = .ok (r, journal)) :
    (∀ line ∈ r.lines, line.Final setting.options.preserveConditionals.meaning) ∧
      ∀ (again : Setting) (file' : String) (b' : Buffer), again.options = setting.options →
        again.evaluator = setting.evaluator →
        b'.lines.map (·.text) = r.lines.map (·.text) →
          ∃ r' journal', b'.reduce again file' attributes = .ok (r', journal') ∧
            r'.lines = b'.lines ∧ r'.attributes = r.attributes ∧
            (setting.options.preserveConditionals.meaning = false → r'.diagnostics = []) := by
  obtain ⟨⟨lines, c⟩, hrun, hresult⟩ := eq_ok_of_map h
  cases hresult
  rw [Loop.run_eq] at hrun
  have hagain : ∀ (again : Setting) (file' : String) (b' : Buffer),
      again.options = setting.options → again.evaluator = setting.evaluator →
        b'.lines.map (·.text) = lines.map (·.text) →
          (∀ line ∈ lines, line.Final setting.options.preserveConditionals.meaning) ∧
            ∃ c', State.run again ⟨.start again file' attributes, #[], b'.lines⟩ =
                .ok (b'.lines, c') ∧
              Context.Repeats setting.options.preserveConditionals.meaning c c' := by
    intro again file' b' hoptions hevaluator htexts
    exact State.run_repeats hrun hoptions hevaluator (fun _ hl => nomatch hl)
      (Context.repeats_start _ _ _ _ _ _) htexts
  -- that the lines are final does not depend on the second reduction, so any will do
  refine ⟨(hagain setting file ⟨lines⟩ rfl rfl rfl).1, ?_⟩
  intro again file' b' hoptions hevaluator htexts
  obtain ⟨-, c', hrun', hrepeats⟩ := hagain again file' b' hoptions hevaluator htexts
  refine ⟨(Result.ofRun again file' b'.lines c').1, (Result.ofRun again file' b'.lines c').2,
    ?_, rfl, ?_, fun hnormal => ?_⟩
  · rw [Buffer.reduce, Loop.run_eq]
    exact congrArg (Except.map _) hrun'
  · show c'.finish.attributes.values = c.finish.attributes.values
    rw [Context.attributes_finish, Context.attributes_finish, hrepeats.attributes]
  · obtain ⟨-, hframes, hquiet⟩ := hrepeats.dropped hnormal
    show c'.finish.journal.diagnostics = []
    rw [Context.finish, hframes]
    exact hquiet

/-- A document without files beside it, in which a conditional brings in an attribute entry: the
entry is left, and is left as it is by a second reduction. -/
theorem Buffer.reduce_fixed_inline :
    let setting : Setting := { cwd := "/", jail := ⟨.free, "/", none⟩, rootDirectory := "/" }
    let line : String → Line := fun text => ⟨text, { file := "a", line := 1 }⟩
    ∃ r journal, Buffer.reduce setting "a" {} ⟨[line "ifndef::x[:x: 1]"]⟩ = .ok (r, journal) ∧
      r.lines = [line ":x: 1"] ∧ r.attributes = [("x", "1")] ∧
      ∃ r' journal', Buffer.reduce setting "b" {} ⟨[line ":x: 1"]⟩ = .ok (r', journal') ∧
        r'.lines = [line ":x: 1"] ∧ r'.attributes = [("x", "1")] ∧ r'.diagnostics = [] := by
  intro setting line
  let start : Context := .start setting "a" {}
  let last : Context := { start with attributes := { values := [("x", "1")] } }
  have hfirst : State.After setting ⟨start, #[], [line ":x: 1"]⟩
      (Loop.start setting "a" {} ⟨[line "ifndef::x[:x: 1]"]⟩).state := by
    refine State.after_of_toOption ?_
    decide +kernel
  have hsecond : State.After setting ⟨last, #[line ":x: 1"], []⟩
      ⟨start, #[], [line ":x: 1"]⟩ := by
    refine State.after_of_toOption ?_
    decide +kernel
  have hreduce : Buffer.reduce setting "a" {} ⟨[line "ifndef::x[:x: 1]"]⟩ =
      .ok (Result.ofRun setting "a" [line ":x: 1"] last) := by
    rw [Buffer.reduce, Loop.run_eq, State.run_of_after hfirst, State.run_of_after hsecond,
      State.run_of_nil]
    rfl
  obtain ⟨-, hagain⟩ := Buffer.reduce_fixed hreduce
  obtain ⟨r', journal', hreduce', hlines, hattributes, hquiet⟩ :=
    hagain setting "b" ⟨[line ":x: 1"]⟩ rfl rfl rfl
  exact ⟨_, _, hreduce, rfl, rfl, r', journal', hreduce', hlines, hattributes, hquiet rfl⟩

end Transclude
