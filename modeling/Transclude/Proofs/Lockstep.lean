import Transclude.Proofs.FixedPoint
import Transclude.Proofs.Preservation
import Transclude.Proofs.Provenance

/-!
# Reductions in step

Two reductions are in step if they know the same attributes, are in the same verbatim block, have
the same blocks open, and are still to read lines that match: the same line, or lines with the same
text that neither are includes nor carry one. The origins of such lines may differ, and so may what
the reductions have noted down. Reductions in step stay so, and come to the same texts and the same
attributes, or are interrupted for the same reason.

## Main definitions

* `Parallel`        : whether two parts of reductions come to what is related.
* `Context.Accords` : whether two reductions know the same.
* `Line.Accords`    : whether a line matches one of another reduction.
* `State.Accords`   : whether two reductions are in step, given the directories that they know.
* `State.InStep`    : whether they are in step.

## Main statements

* `State.run_ahead`   : reductions that stay related step by step come to related ends.
* `State.InStep.step` : reductions stay in step.
* `State.InStep.run`  : they come to the same.
-/

namespace Transclude

open Transclude.Text

/-! ## Parts and runs that come to the same -/

/-- Whether two parts of reductions come to their ends and to what is related, or are both
interrupted for the same reason. -/
inductive Parallel {α β : Type} (R : α → β → Prop) :
    Except Interruption α → Except Interruption β → Prop
  | ok {a : α} {b : β} (related : R a b) : Parallel R (.ok a) (.ok b)
  | error {i j : Interruption} (abort : j.abort = i.abort) : Parallel R (.error i) (.error j)

namespace Parallel

variable {α β γ δ : Type} {R : α → β → Prop} {S : γ → δ → Prop} {x : Except Interruption α}
  {y : Except Interruption β} {f : α → γ} {g : β → δ}

/-- What is made of related results is related if it is so of any two. -/
theorem map (h : Parallel R x y) (hfg : ∀ a b, R a b → S (f a) (g b)) :
    Parallel S (x.map f) (y.map g) := by
  cases h with
  | ok related => exact .ok (hfg _ _ related)
  | error abort => exact .error abort

theorem imp {R R' : α → β → Prop} (h : Parallel R x y) (hR : ∀ a b, R a b → R' a b) :
    Parallel R' x y := by
  cases h with
  | ok related => exact .ok (hR _ _ related)
  | error abort => exact .error abort

theorem flip (h : Parallel R x y) : Parallel (fun b a => R a b) y x := by
  cases h with
  | ok related => exact .ok related
  | error abort => exact .error abort.symm

/-- Of what parts come to, more is related if it is so given that they come to it. -/
theorem imp_of_ok {R R' : α → β → Prop} (h : Parallel R x y)
    (hR : ∀ a b, x = .ok a → y = .ok b → R a b → R' a b) : Parallel R' x y := by
  cases h with
  | ok related => exact .ok (hR _ _ rfl rfl related)
  | error abort => exact .error abort

theorem exists_ok {a : α} (h : Parallel R (.ok a) y) : ∃ b, y = .ok b ∧ R a b := by
  cases h with
  | ok related => exact ⟨_, rfl, related⟩

theorem exists_error {i : Interruption} (h : Parallel R (.error i) y) :
    ∃ j, y = .error j ∧ j.abort = i.abort := by
  cases h with
  | error abort => exact ⟨_, rfl, abort⟩

/-- Parts with the same outcome are parallel, given that what they note down is related. -/
theorem of_outcome {x y : Except Interruption (α × γ)} {R : α × γ → α × γ → Prop}
    (h : outcome y = outcome x)
    (hrelated : ∀ a c c', x = .ok (a, c) → y = .ok (a, c') → R (a, c) (a, c')) :
    Parallel R x y := by
  cases hx : x with
  | ok result =>
    obtain ⟨a, c⟩ := result
    obtain ⟨c', hy⟩ := ok_of_outcome h hx
    rw [hy]
    exact .ok (hrelated a c c' hx hy)
  | error i =>
    obtain ⟨j, hy, habort⟩ := error_of_outcome h hx
    rw [hy]
    exact .error habort

end Parallel

namespace State

section Runs

variable {setting setting' : Setting} {R : State → State → Prop}
  {E : List Line × Context → List Line × Context → Prop} {s u : State}

/-- Reductions that stay related step by step come to related ends, where the second may take more
steps than the first. -/
theorem run_ahead
    (hstep : ∀ s u, R s u → Parallel (Option.Rel fun t u' => ∃ v, Leads setting' u' v ∧ R t v)
      (s.step setting) (u.step setting'))
    (hend : ∀ s u, R s u → E (s.emitted.toList, s.toContext) (u.emitted.toList, u.toContext))
    (h : R s u) : Parallel E (s.run setting) (u.run setting') := by
  -- the first takes no more steps than the second, so the induction is on its run
  fun_induction State.run setting s generalizing u with
  | case1 s hs =>
    obtain ⟨_, hu, hrelated⟩ := (hs ▸ hstep s u h).exists_ok
    cases hrelated
    rw [run_of_end hu]
    exact .ok (hend s u h)
  | case2 s t hs ih =>
    obtain ⟨_, hu, hrelated⟩ := (hs ▸ hstep s u h).exists_ok
    cases hrelated with
    | some hahead =>
      obtain ⟨v, hleads, hafter⟩ := hahead
      rw [run_of_after hu, run_of_leads hleads]
      exact ih hafter
  | case3 s i hs =>
    obtain ⟨j, hu, habort⟩ := (hs ▸ hstep s u h).exists_error
    rw [run_of_error hu]
    exact .error habort

/-- Reductions that stay related step by step come to related ends. -/
theorem run_together
    (hstep : ∀ s u, R s u → Parallel (Option.Rel R) (s.step setting) (u.step setting'))
    (hend : ∀ s u, R s u → E (s.emitted.toList, s.toContext) (u.emitted.toList, u.toContext))
    (h : R s u) : Parallel E (s.run setting) (u.run setting') := by
  refine run_ahead (fun s u hrelated => (hstep s u hrelated).imp fun a b hafter => ?_) hend h
  cases hafter with
  | none => exact .none
  | some hafter => exact .some ⟨_, .refl _, hafter⟩

end Runs

end State

/-! ## What is known -/

namespace Context

/-- Whether two reductions know the same, the one the directories `known` and the other
`known'`. -/
structure Accords (known known' : Table String) (c c' : Context) : Prop where
  repeats : Repeats true c c'
  known : c.directories = known
  known' : c'.directories = known'

variable {setting : Setting} {known known' : Table String} {c c' : Context}

/-- What was noted down makes no difference. -/
theorem Accords.of_journal (h : Accords known known' c c') (journal journal' : Journal) :
    Accords known known' { c with journal := journal } { c' with journal := journal' } :=
  ⟨.of_kept h.repeats.attributes h.repeats.verbatim (h.repeats.kept rfl), h.known, h.known'⟩

theorem Accords.withVerbatim (h : Accords known known' c c') (verbatim : Verbatim) :
    Accords known known' { c with verbatim := verbatim } { c' with verbatim := verbatim } :=
  ⟨h.repeats.withVerbatim verbatim, h.known, h.known'⟩

theorem Accords.reportAll (h : Accords known known' c c')
    (problems problems' : List (String × Origin)) :
    Accords known known' (c.reportAll problems) (c'.reportAll problems') := by
  obtain ⟨journal, heq, -⟩ := c.reportAll_eq problems
  obtain ⟨journal', heq', -⟩ := c'.reportAll_eq problems'
  rw [heq, heq']
  exact h.of_journal journal journal'

theorem Accords.afterEntry (h : Accords known known' c c') (e : AttributeEntry) :
    Accords known known' (c.afterEntry e) (c'.afterEntry e) :=
  ⟨h.repeats.afterEntry e, (c.directories_afterEntry e).trans h.known,
    (c'.directories_afterEntry e).trans h.known'⟩

theorem Accords.afterClosing (h : Accords known known' c c') (d : Closing)
    (origin origin' : Origin) :
    Accords known known' (c.afterClosing d origin) (c'.afterClosing d origin') :=
  ⟨h.repeats.afterClosing d origin origin', (c.directories_afterClosing d origin).trans h.known,
    (c'.directories_afterClosing d origin').trans h.known'⟩

theorem Accords.enter (h : Accords known known' c c') (d : Opening) (active : Bool)
    (origin origin' : Origin) :
    Accords known known' (c.enter d active origin) (c'.enter d active origin') :=
  ⟨h.repeats.enter d active origin origin', h.known, h.known'⟩

/-- A condition is decided alike. -/
theorem Accords.judge (h : Accords known known' c c') (d : Opening) (origin origin' : Origin) :
    Parallel (fun p q => q.1 = p.1 ∧ Accords known known' p.2 q.2) (c.judge setting d origin)
      (c'.judge setting d origin') := by
  refine .of_outcome (outcome_judge rfl h.repeats.attributes d origin origin') ?_
  intro active after after' hjudged hjudged'
  obtain ⟨journal, rfl, -⟩ := eq_of_judge hjudged
  obtain ⟨journal', rfl, -⟩ := eq_of_judge hjudged'
  exact ⟨rfl, h.of_journal journal journal'⟩

/-- So it is within open blocks. -/
theorem Accords.judgeWithin (h : Accords known known' c c') (d : Opening)
    (origin origin' : Origin) :
    Parallel (fun p q => q.1 = p.1 ∧ Accords known known' p.2 q.2)
      (c.judgeWithin setting d origin) (c'.judgeWithin setting d origin') := by
  unfold Context.judgeWithin
  rw [h.repeats.active_eq]
  split
  · exact h.judge d origin origin'
  · exact .ok ⟨rfl, h⟩

/-- Without extensions, an include is resolved alike if its file reads includes in the same
directory. The directories that are known stay the same where they were, and are the same for the
files of the new lines. -/
theorem Accords.resolve (hempty : setting.registry.includeProcessors = [])
    (h : Accords known known' c c') {origin : Origin}
    (hdirectory : known'.get? origin.file = known.get? origin.file) (d : Include) :
    Parallel (fun p q => q.1 = p.1 ∧ ∃ new new', Accords new new' p.2 q.2 ∧
        (∀ file, known'.get? file = known.get? file → new'.get? file = new.get? file) ∧
        ∀ l ∈ p.1, new'.get? l.origin.file = new.get? l.origin.file)
      (c.resolve setting d origin) (c'.resolve setting d origin) := by
  have hbase : Resolution.baseDirectory setting known' origin =
      Resolution.baseDirectory setting known origin := by
    rw [Resolution.baseDirectory, Resolution.baseDirectory, hdirectory]
  have hcontext : ∀ (new new' : Table String) (journal journal' : Journal), Accords new new'
      { c with directories := new, journal := journal }
      { c' with attributes := c.attributes, directories := new', journal := journal' } :=
    fun _ _ _ _ => ⟨.of_kept rfl h.repeats.verbatim (h.repeats.kept rfl), rfl, rfl⟩
  unfold Context.resolve Resolution.ofDirective
  rw [h.repeats.attributes, h.known, h.known']
  cases hrequest : IncludeRequest.ofDirective c.attributes d origin with
  | error p =>
    exact .ok ⟨rfl, known, known', hcontext _ _ _ _, fun _ hfile => hfile, List.forall_mem_nil _⟩
  | ok request =>
    obtain rfl : request.origin = origin := origin_of_request hrequest
    dsimp only
    rw [hbase]
    cases hfinding : (Search.ofRequest setting
        (Resolution.baseDirectory setting known request.origin) request).finding with
    | error abort => exact .error rfl
    | ok finding =>
      rcases Search.finding_of_ofRequest hempty hfinding with
        ⟨p, rfl⟩ | ⟨rfl, -⟩ | ⟨path, selection, rfl, -⟩
      · -- there may be a placeholder, which stands where the include does
        refine .ok ⟨rfl, known, known', hcontext _ _ _ _, fun _ hfile => hfile, fun l hl => ?_⟩
        simp only [Resolution.ofFinding] at hl
        split at hl
        · rw [List.mem_singleton.1 hl]
          exact hdirectory
        · cases hl
      · refine .ok ⟨rfl, known, known', hcontext _ _ _ _, fun _ hfile => hfile, fun l hl => ?_⟩
        rw [List.mem_singleton.1 hl]
        exact hdirectory
      · -- both know the directory of the file now
        have hinsert : ∀ file, known'.get? file = known.get? file →
            (known'.insert path (Path.directory path)).get? file =
              (known.insert path (Path.directory path)).get? file := by
          intro file hfile
          rw [Table.get?_insert, Table.get?_insert, hfile]
        refine .ok ⟨rfl, _, _, hcontext _ _ _ _, hinsert, fun l hl => ?_⟩
        rcases Resolution.mem_offsetLines hl with hl | ⟨hl, -⟩
        · obtain ⟨⟨n, text⟩, -, rfl⟩ := List.mem_map.1 hl
          show (known'.insert path _).get? path = (known.insert path _).get? path
          rw [Table.get?_insert, Table.get?_insert, if_pos rfl, if_pos rfl]
        · rw [hl]
          exact hinsert _ hdirectory

end Context

/-! ## Lines that match -/

/-- The text of a conditional is a part of its line. -/
theorem Opening.infix_of_inline {line text : String} {d : Opening}
    (h : Directive.ofLine? (strippedEnd line) = some (.opening d))
    (hinline : d.inlineText? = some text) : text.toList <:+: line.toList := by
  refine List.IsInfix.trans ?_ (prefix_of_strippedEnd line).isInfix
  obtain ⟨keyword, rest, hline, -, -, hkind⟩ := rest_of_directive h
  rw [hline]
  refine List.IsInfix.trans ?_ (List.suffix_append keyword rest).isInfix
  rcases hkind with hd | ⟨negated, hd⟩ | hd | hd
  · unfold Directive.includeOf? at hd
    split at hd
    · split at hd
      · cases hd
      · cases hd
    · cases hd
  · obtain ⟨⟨target, given⟩, hparts, heq⟩ := Option.map_eq_some_iff.1 hd
    cases heq
    obtain rfl : given = some text := hinline
    unfold Directive.conditionalParts? at hparts
    split at hparts
    · rename_i target' text' hbracketed
      split at hparts
      · cases hparts
      · obtain ⟨-, hgiven⟩ := Prod.mk.inj (Option.some.inj hparts)
        split at hgiven
        · cases hgiven
        · cases hgiven
          obtain ⟨-, rfl⟩ := eq_of_bracketed? hbracketed
          rw [String.toList_ofList]
          exact ⟨target' ++ ['['], [']'], by simp⟩
    · cases hparts
  · -- a conditional on an expression has no text
    obtain ⟨_, -, heq⟩ := Option.map_eq_some_iff.1 hd
    cases heq
    cases hinline
  · obtain ⟨_, -, heq⟩ := Option.map_eq_some_iff.1 hd
    cases heq

namespace Line

/-- Lines that are related one by one have the same texts if any two of them have. -/
theorem texts_of_forall₂ {R : Line → Line → Prop} {lines lines' : List Line}
    (h : List.Forall₂ R lines lines')
    (htext : ∀ {line line' : Line}, R line line' → line'.text = line.text) :
    lines'.map (·.text) = lines.map (·.text) := by
  induction h with
  | nil => rfl
  | cons hline _ ih => rw [List.map_cons, List.map_cons, htext hline, ih]

/-- Whether a line has no keyword of an include in it. -/
def Unmarked (line : Line) : Prop := ¬ "include::".toList <:+: line.text.toList

/-- A line with an include, or with a conditional around one, has the keyword in it. -/
theorem Unmarked.not_include {line : Line} (h : line.Unmarked) (d : Include) :
    Directive.ofLine? (strippedEnd line.text) ≠ some (.include d) :=
  fun hd => h ((prefix_of_include hd).trans (prefix_of_strippedEnd _)).isInfix

theorem Unmarked.inline {line : Line} (h : line.Unmarked) {d : Opening} {text : String}
    (hd : Directive.ofLine? (strippedEnd line.text) = some (.opening d))
    (hinline : d.inlineText? = some text) (origin : Origin) : Unmarked ⟨text, origin⟩ :=
  fun hpart => h (hpart.trans (Opening.infix_of_inline hd hinline))

theorem Unmarked.not_isInclude {text : String} {origin : Origin}
    (h : Unmarked ⟨text, origin⟩) : isInclude text = false := by
  refine eq_false_of_ne_true fun hinclude => ?_
  unfold isInclude at hinclude
  split at hinclude
  · rename_i hd
    exact h (prefix_of_include hd).isInfix
  · cases hinclude

/-- Whether a line of a reduction that knows the directories `known'` matches one of a reduction
that knows `known`: it is the same line, of a file with the same directory, or has the same text and
nothing of an include in it. -/
inductive Accords (known known' : Table String) : Line → Line → Prop
  | same {line : Line}
    (directory : known'.get? line.origin.file = known.get? line.origin.file) :
    Accords known known' line line
  | plain {line line' : Line} (text : line'.text = line.text) (unmarked : line.Unmarked) :
    Accords known known' line line'

variable {known known' new new' : Table String} {line line' : Line}

theorem Accords.text_eq (h : Accords known known' line line') : line'.text = line.text := by
  cases h with
  | same => rfl
  | plain text => exact text

theorem Accords.texts_eq {lines lines' : List Line}
    (h : List.Forall₂ (Accords known known') lines lines') :
    lines'.map (·.text) = lines.map (·.text) :=
  texts_of_forall₂ h fun hline => hline.text_eq

/-- Lines match by their texts alone if they have nothing of an include in them. -/
theorem Accords.of_texts {lines lines' : List Line}
    (h : lines'.map (·.text) = lines.map (·.text)) (hunmarked : ∀ l ∈ lines, l.Unmarked) :
    List.Forall₂ (Accords known known') lines lines' := by
  induction lines generalizing lines' with
  | nil =>
    rw [List.map_eq_nil_iff.1 h]
    exact .nil
  | cons line rest ih =>
    obtain ⟨line', rest', rfl, hline, hrest⟩ := List.map_eq_cons_iff.1 h
    obtain ⟨hfirst, hothers⟩ := List.forall_mem_cons.1 hunmarked
    exact .cons (.plain hline hfirst) (ih hrest hothers)

/-- Lines match as long as the directories are the same where they were. -/
theorem Accords.of_known (h : Accords known known' line line')
    (hnew : ∀ file, known'.get? file = known.get? file → new'.get? file = new.get? file) :
    Accords new new' line line' := by
  cases h with
  | same directory => exact .same (hnew _ directory)
  | plain text unmarked => exact .plain text unmarked

/-- The texts of conditionals on matching lines match. -/
theorem Accords.inline (h : Accords known known' line line') {d : Opening} {text : String}
    (hd : Directive.ofLine? (strippedEnd line.text) = some (.opening d))
    (hinline : d.inlineText? = some text) :
    Accords known known' ⟨text, line.origin⟩ ⟨text, line'.origin⟩ := by
  cases h with
  | same directory => exact .same directory
  | plain _ unmarked => exact .plain rfl (unmarked.inline hd hinline line.origin)

end Line

/-- A block ends at the same place in lines with the same texts. -/
theorem BlockEnd.findFrom_of_texts {lines lines' : List Line}
    (h : lines'.map (·.text) = lines.map (·.text)) (targets : List String) (count : Nat) :
    findFrom targets count lines' = findFrom targets count lines := by
  induction lines generalizing lines' targets count with
  | nil =>
    rw [List.map_eq_nil_iff.1 h]
  | cons line rest ih =>
    obtain ⟨line', rest', rfl, hline, hrest⟩ := List.map_eq_cons_iff.1 h
    simp only [findFrom, hline, ih hrest]

/-! ## Reductions in step -/

namespace State

/-- One more line with the same text is emitted. -/
theorem texts_push {emitted emitted' : Array Line} {line line' : Line}
    (h : emitted'.toList.map (·.text) = emitted.toList.map (·.text))
    (hline : line'.text = line.text) :
    (emitted'.push line').toList.map (·.text) = (emitted.push line).toList.map (·.text) := by
  rw [Array.toList_push, Array.toList_push, List.map_append, List.map_append, h]
  simp [hline]

/-- Whether two reductions are in step, the one with the directories `known`, and the other with
`known'`. -/
structure Accords (known known' : Table String) (s u : State) : Prop where
  context : Context.Accords known known' s.toContext u.toContext
  emitted : u.emitted.toList.map (·.text) = s.emitted.toList.map (·.text)
  pending : List.Forall₂ (Line.Accords known known') s.pending u.pending

/-- Whether two reductions are in step. -/
def InStep (s u : State) : Prop := ∃ known known', Accords known known' s u

variable {setting : Setting} {known known' : Table String} {s u : State} {line line' : Line}
  {rest rest' new new' : List Line} {c c' : Context}

/-- Reductions in step to which matching lines are put. -/
theorem Accords.await (h : Accords known known' s u)
    (hcontext : Context.Accords known known' c c')
    (hnew : List.Forall₂ (Line.Accords known known') new new') :
    Accords known known' ((s.withContext c).await new) ((u.withContext c').await new') :=
  ⟨hcontext, h.emitted, hnew⟩

section Line

variable (h : Accords known known' (s.await rest) (u.await rest'))
  (hline : Line.Accords known known' line line')
include h hline

/-- Reductions in step that emit matching lines. -/
theorem Accords.emit (hcontext : Context.Accords known known' c c') :
    Accords known known' ((s.withContext c).emit line rest)
      ((u.withContext c').emit line' rest') := by
  exact ⟨hcontext, texts_push h.emitted hline.text_eq, h.pending⟩

theorem Accords.onInclude (hempty : setting.registry.includeProcessors = []) {d : Include}
    (hd : Directive.ofLine? (strippedEnd line.text) = some (.include d)) :
    Parallel InStep (s.onInclude setting line rest d) (u.onInclude setting line' rest' d) := by
  -- an include is never one of the lines that match by their texts alone
  cases hline with
  | plain _ unmarked => exact absurd hd (unmarked.not_include d)
  | same directory =>
    refine (h.context.resolve hempty directory d).map ?_
    rintro ⟨lines, after⟩ ⟨lines', after'⟩ ⟨hlines, new, new', hcontext, hkept, hnew⟩
    dsimp only at hlines hcontext hnew
    subst hlines
    refine ⟨new, new', hcontext, h.emitted, List.rel_append ?_ ?_⟩
    · exact List.forall₂_same.2 fun l hl => .same (hnew l hl)
    · exact h.pending.imp fun _ _ haccords => haccords.of_known hkept

theorem Accords.onClosing (d : Closing) :
    Accords known known' (s.onClosing setting line rest d) (u.onClosing setting line' rest' d) := by
  have hcontext := h.context.afterClosing d line.origin line'.origin
  unfold State.onClosing
  dsimp only
  split
  · exact h.emit hline hcontext
  · exact h.await hcontext h.pending

end Line

/-- Reductions in step leave out the same block. -/
theorem Accords.skip (h : Accords known known' (s.await rest) (u.await rest')) (d : Opening)
    (line line' : Line) :
    Accords known known' (s.skip line rest d) (u.skip line' rest' d) := by
  have hfind : BlockEnd.find d.target rest' = BlockEnd.find d.target rest :=
    BlockEnd.findFrom_of_texts (Line.Accords.texts_eq h.pending) _ _
  -- the reports are at other origins, and leave nothing behind but themselves
  cases hlength : (BlockEnd.find d.target rest).length with
  | some n =>
    rw [skip_of_some hlength, skip_of_some (hfind ▸ hlength)]
    exact h.await (h.context.reportAll _ _) (List.forall₂_drop n h.pending)
  | none =>
    rw [skip_of_none hlength, skip_of_none (hfind ▸ hlength)]
    exact h.await ((h.context.reportAll _ _).of_journal _ _) .nil

section Line

variable (h : Accords known known' (s.await rest) (u.await rest'))
  (hline : Line.Accords known known' line line') {d : Opening}
  (hd : Directive.ofLine? (strippedEnd line.text) = some (.opening d))
include h hline hd

theorem Accords.onJudged (hcontext : Context.Accords known known' c c') (active : Bool) :
    Accords known known' ((s.withContext c).onJudged line rest d active)
      ((u.withContext c').onJudged line' rest' d active) := by
  unfold State.onJudged
  cases hinline : d.inlineText? with
  | some text =>
    cases active with
    | true => exact h.await hcontext (.cons (hline.inline hd hinline) h.pending)
    | false => exact h.await hcontext h.pending
  | none =>
    cases active with
    | true => exact h.await (hcontext.enter d true line.origin line'.origin) h.pending
    | false => exact (h.await hcontext h.pending).skip d line line'

theorem Accords.onOpening :
    Parallel (Accords known known') (s.onOpening setting line rest d)
      (u.onOpening setting line' rest' d) := by
  refine (h.context.judge d line.origin line'.origin).map ?_
  rintro ⟨active, after⟩ ⟨active', after'⟩ ⟨rfl, hcontext⟩
  exact h.onJudged hline hd hcontext active'

/-- A conditional that is put into block form is on the same line in both. -/
theorem Accords.onPreserved :
    Parallel (Accords known known') (s.onPreserved setting line rest d)
      (u.onPreserved setting line' rest' d) := by
  unfold State.onPreserved
  cases hinline : d.inlineText? with
  | some text =>
    dsimp only
    refine .ok ?_
    split
    · -- a line in block form has an include, so it is no other line
      rename_i hinclude
      cases hline with
      | plain _ unmarked =>
        have hother := (unmarked.inline hd hinline line.origin).not_isInclude
        rw [hinclude] at hother
        cases hother
      | same directory =>
        refine h.await h.context (List.rel_append (List.forall₂_same.2 fun l hl => ?_) h.pending)
        simp only [Opening.blockForm, List.mem_cons, List.not_mem_nil, or_false] at hl
        rcases hl with rfl | rfl | rfl
        · exact .same directory
        · exact .same directory
        · exact .same directory
    · exact h.emit hline h.context
  | none =>
    refine (h.context.judgeWithin d line.origin line'.origin).map ?_
    rintro ⟨active, after⟩ ⟨active', after'⟩ ⟨rfl, hcontext⟩
    exact h.emit hline (hcontext.enter d active' line.origin line'.origin)

end Line

theorem Accords.inStep (h : Accords known known' s u) : InStep s u := ⟨known, known', h⟩

variable (hempty : setting.registry.includeProcessors = [])
include hempty

theorem Accords.onHit (h : Accords known known' (s.await rest) (u.await rest'))
    (hline : Line.Accords known known' line line') {hit : Hit}
    (hfound : Hit.ofLine? s.verbatim line.text = (s.verbatim, some hit)) :
    Parallel InStep (s.onHit setting line rest hit) (u.onHit setting line' rest' hit) := by
  have hdirective : ∀ d, hit = .directive d →
      Directive.ofLine? (strippedEnd line.text) = some d := by
    rintro d rfl
    exact Hit.directive_of_ofLine? (by rw [hfound])
  rcases hit with (d | d | d) | e
  · exact h.onInclude hline hempty (hdirective _ rfl)
  · unfold State.onHit
    dsimp only
    split
    · exact (h.onPreserved hline (hdirective _ rfl)).imp fun _ _ haccords => haccords.inStep
    · exact (h.onOpening hline (hdirective _ rfl)).imp fun _ _ haccords => haccords.inStep
  · exact .ok (h.onClosing hline d).inStep
  · exact .ok (h.emit hline (h.context.afterEntry e)).inStep

theorem Accords.onLine (h : Accords known known' (s.await rest) (u.await rest'))
    (hline : Line.Accords known known' line line') :
    Parallel InStep (s.onLine setting line rest) (u.onLine setting line' rest') := by
  have hverbatim : u.verbatim = s.verbatim := h.context.repeats.verbatim
  cases hfound : Hit.ofLine? s.verbatim line.text with
  | mk verbatim found =>
    have hfound' : Hit.ofLine? u.verbatim line'.text = (verbatim, found) := by
      rw [hverbatim, hline.text_eq, hfound]
    cases found with
    | none =>
      rw [onLine_of_none hfound, onLine_of_none hfound']
      exact .ok (h.emit hline (h.context.withVerbatim verbatim)).inStep
    | some hit =>
      obtain rfl := Hit.verbatim_of_ofLine? hfound
      rw [onLine_of_some hfound, onLine_of_some (hverbatim.symm ▸ hfound')]
      exact h.onHit hempty hline hfound

/-- Reductions in step stay so, or come to their ends or are interrupted together. -/
theorem InStep.step (h : InStep s u) :
    Parallel (Option.Rel InStep) (s.step setting) (u.step setting) := by
  obtain ⟨known, known', haccords⟩ := h
  cases hpending : s.pending with
  | nil =>
    have hpending' : u.pending = [] := by
      have hlines := haccords.pending
      rw [hpending] at hlines
      exact List.forall₂_nil_left_iff.1 hlines
    rw [step_of_nil hpending, step_of_nil hpending']
    exact .ok .none
  | cons line rest =>
    obtain ⟨line', rest', hline, hrest, hpending'⟩ : ∃ line' rest',
        Line.Accords known known' line line' ∧
          List.Forall₂ (Line.Accords known known') rest rest' ∧ u.pending = line' :: rest' := by
      have hlines := haccords.pending
      rw [hpending] at hlines
      exact List.forall₂_cons_left_iff.1 hlines
    rw [step_of_cons hpending, step_of_cons hpending']
    have hawait : Accords known known' (s.await rest) (u.await rest') :=
      ⟨haccords.context, haccords.emitted, hrest⟩
    exact (hawait.onLine hempty hline).map fun _ _ hinStep => .some hinStep

/-- Reductions in step come to the same texts and attributes, or are interrupted for the same
reason. -/
theorem InStep.run (h : InStep s u) :
    Parallel (fun p q => q.1.map (·.text) = p.1.map (·.text) ∧ q.2.attributes = p.2.attributes)
      (s.run setting) (u.run setting) := by
  refine run_together (fun s u hinStep => hinStep.step hempty) ?_ h
  rintro s u ⟨_, _, haccords⟩
  exact ⟨haccords.emitted, haccords.context.repeats.attributes⟩

end State

end Transclude
