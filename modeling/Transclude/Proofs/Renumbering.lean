import Transclude.Proofs.Lockstep
import Transclude.Proofs.Pasting

/-!
# Line numbers

The number of a line tells where a problem is, and nothing else depends on it. Two reductions that
are to read lines with the same texts, of the same files and brought in through the same files, come
to the same texts and the same attributes, if conditionals are not preserved: the numbers of the
lines may differ, and so may the blocks that are open, as all of them are true. What one step does
is told with the lines after it related in any way that lasts while blocks are left out, so that
lines may be missing from one of the reductions.

## Main definitions

* `Line.Alike`                  : whether two lines differ in their numbers only.
* `IncludeProcessor.Unnumbered` : whether an extension makes nothing of the numbers of lines.
* `Context.Alike`               : whether two reductions know the same and are in true blocks only.
* `BlockEnd.left`               : the lines after the end of some blocks.
* `Line.Lasting`                : whether a relation lasts while blocks are left out.
* `State.Alike`                 : whether two reductions have come to the same, but for the lines.

## Main statements

* `State.Alike.onLine`   : lines that are alike do the same.
* `State.run_renumbered` : numbers of lines play no part.
-/

namespace Transclude

open Transclude.Text

/-! ## Lines -/

namespace Origin

variable {o o' : Origin}

theorem file_eq_of_lineage (h : o'.lineage = o.lineage) : o'.file = o.file := by
  have hlast := congrArg List.getLast? h
  simpa [lineage] using hlast

theorem depth_eq_of_lineage (h : o'.lineage = o.lineage) : o'.depth = o.depth := by
  have hlength := congrArg List.length h
  simpa [lineage, depth] using hlength

theorem lineage_child_congr (h : o'.lineage = o.lineage) (file : String) (n n' : Int) :
    (o'.child file n').lineage = (o.child file n).lineage := by
  rw [lineage_child, lineage_child, h]

end Origin

/-- Whether two lines differ in their numbers only, or in those of the includes that brought them
in. -/
structure Line.Alike (line line' : Line) : Prop where
  text : line'.text = line.text
  lineage : line'.origin.lineage = line.origin.lineage

/-- The lines of a text are alike if their origins are. -/
theorem Line.alike_number {origin origin' : Int → Origin} (texts : List String)
    (h : ∀ n, (origin' n).lineage = (origin n).lineage) :
    List.Forall₂ Line.Alike (Line.number origin texts) (Line.number origin' texts) := by
  unfold Line.number
  rw [List.forall₂_map_left_iff, List.forall₂_map_right_iff, List.forall₂_same]
  exact fun _ _ => ⟨rfl, h _⟩

/-! ## Includes -/

/-- Whether what an extension answers does not depend on the number of the line that asks. -/
def IncludeProcessor.Unnumbered (p : IncludeProcessor) : Prop :=
  ∀ (request : IncludeRequest) (origin : Origin), origin.lineage = request.origin.lineage →
    p.process { request with origin := origin } = p.process request

/-- A request at another line is the same. -/
theorem IncludeRequest.ofDirective_at (a : AttributeSet) (d : Include) (origin origin' : Origin) :
    ofDirective a d origin' =
      (ofDirective a d origin).map fun request => { request with origin := origin' } := by
  have hrequest : ∀ target attrList : String,
      (if target = "" then Except.error IncludeProblem.emptyTarget
        else .ok ⟨target, AttrList.ofText attrList, origin', d, a.values⟩) =
      Except.map (fun request : IncludeRequest => { request with origin := origin' })
        (if target = "" then .error .emptyTarget
          else .ok ⟨target, AttrList.ofText attrList, origin, d, a.values⟩) := by
    intro target attrList
    split
    · rfl
    · rfl
  unfold ofDirective
  dsimp only
  split
  · -- an attribute without a value drops the include at either line
    generalize (!List.isEmpty _ || _) = missing
    cases missing with
    | false => exact hrequest _ _
    | true =>
      cases AttributeSet.dropSeverity? a.missingMode with
      | none => exact hrequest _ _
      | some severity => rfl
  · exact hrequest _ _

section Includes

variable {s : Setting} {a : AttributeSet} {request : IncludeRequest} {lines lines' : List Line}
  {origin : Origin}

namespace Search

theorem supply?_at (horigin : origin.lineage = request.origin.lineage)
    {ps : List IncludeProcessor} (hhooks : ∀ p ∈ ps, p.Unnumbered) :
    supply? { request with origin := origin } ps = supply? request ps := by
  induction ps with
  | nil => rfl
  | cons p ps ih =>
    obtain ⟨hp, hps⟩ := List.forall_mem_cons.1 hhooks
    rw [supply?, supply?, hp request origin horigin, ih hps]

theorem atPath_at (horigin : origin.lineage = request.origin.lineage) (path : String) :
    atPath s { request with origin := origin } path = atPath s request path := by
  unfold atPath
  dsimp only
  rw [horigin]
  rfl

/-- The same is found for a request at another line. -/
theorem ofRequest_at (hhooks : ∀ p ∈ s.registry.includeProcessors, p.Unnumbered)
    (horigin : origin.lineage = request.origin.lineage) (base : String) :
    ofRequest s base { request with origin := origin } = ofRequest s base request := by
  have hclaimed : ∀ p ∈ s.registry.claim request.target, p.Unnumbered :=
    fun p hp => hhooks p (List.mem_of_mem_filter hp)
  unfold ofRequest
  dsimp only
  rw [Origin.depth_eq_of_lineage horigin, supply?_at horigin hclaimed]
  simp only [atPath_at horigin]

end Search

namespace Resolution

theorem offsetLines_at (horigin : origin.lineage = request.origin.lineage)
    (hlines : List.Forall₂ Line.Alike lines lines') :
    List.Forall₂ Line.Alike (offsetLines a request lines)
      (offsetLines a { request with origin := origin } lines') := by
  by_cases hplain : ∀ offset, request.attributes.get? "leveloffset" = some offset → offset = ""
  · have hsecond : offsetLines a { request with origin := origin } lines' = lines' :=
      offsetLines_of_plain a hplain
    rw [offsetLines_of_plain a hplain, hsecond]
    exact hlines
  · -- the entries are at the include, at either line
    simp only [not_forall] at hplain
    obtain ⟨offset, hoffset, hne⟩ := hplain
    cases hlines with
    | nil =>
      rw [offsetLines_nil, offsetLines_nil]
      exact .nil
    | @cons line line' rest rest' hline hrest =>
      have hsecond : offsetLines a { request with origin := origin } (line' :: rest') =
          ⟨s!":leveloffset: {offset}", origin⟩ :: (line' :: rest' ++ [⟨restoring a, origin⟩]) :=
        offsetLines_eq a hoffset hne (List.cons_ne_nil _ _)
      rw [offsetLines_eq a hoffset hne (List.cons_ne_nil _ _), hsecond]
      refine .cons ⟨rfl, horigin⟩ (.cons hline ?_)
      exact List.rel_append hrest (.cons ⟨rfl, horigin⟩ .nil)

/-- What is found takes the place of an include alike, and the directories are the same. -/
theorem ofFinding_at (s : Setting) (directories : Table String) (a : AttributeSet)
    (horigin : origin.lineage = request.origin.lineage) (finding : Finding) :
    (ofFinding s directories a { request with origin := origin } finding).directories =
        (ofFinding s directories a request finding).directories ∧
      List.Forall₂ Line.Alike (ofFinding s directories a request finding).lines
        (ofFinding s directories a { request with origin := origin } finding).lines := by
  have hfile := Origin.file_eq_of_lineage horigin
  cases finding with
  | supplied name texts =>
    constructor
    · dsimp only [ofFinding, baseDirectory]
      rw [hfile]
    · refine offsetLines_at horigin (Line.alike_number texts fun n => ?_)
      exact Origin.lineage_child_congr horigin _ _ _
  | link => exact ⟨rfl, .cons ⟨rfl, horigin⟩ .nil⟩
  | file path selection =>
    refine ⟨rfl, offsetLines_at horigin ?_⟩
    unfold fileLines
    rw [List.forall₂_map_left_iff, List.forall₂_map_right_iff, List.forall₂_same]
    exact fun _ _ => ⟨rfl, Origin.lineage_child_congr horigin _ _ _⟩
  | problem p =>
    refine ⟨rfl, ?_⟩
    dsimp only [ofFinding]
    split
    · -- the line that is left names the file
      refine .cons ⟨?_, horigin⟩ .nil
      dsimp only [placeholder, Origin.basename]
      rw [hfile]
    · exact .nil

end Resolution

end Includes

/-! ## What is known -/

namespace Context

/-- Whether two reductions know the same, and all blocks that are open are true. -/
structure Alike (c c' : Context) : Prop where
  attributes : c'.attributes = c.attributes
  verbatim : c'.verbatim = c.verbatim
  directories : c'.directories = c.directories
  frames : ∀ f ∈ c.frames, f.active = true
  frames' : ∀ f ∈ c'.frames, f.active = true

variable {setting : Setting} {c c' : Context} {origin origin' : Origin}

/-- What was noted down makes no difference. -/
theorem Alike.of_journal (h : Alike c c') (journal journal' : Journal) :
    Alike { c with journal := journal } { c' with journal := journal' } :=
  ⟨h.attributes, h.verbatim, h.directories, h.frames, h.frames'⟩

theorem Alike.withVerbatim (h : Alike c c') (verbatim : Verbatim) :
    Alike { c with verbatim := verbatim } { c' with verbatim := verbatim } :=
  ⟨h.attributes, rfl, h.directories, h.frames, h.frames'⟩

theorem Alike.afterEntry (h : Alike c c') (e : AttributeEntry) :
    Alike (c.afterEntry e) (c'.afterEntry e) := by
  obtain ⟨journal, -, heq⟩ := afterEntry_of_active (active_of_frames h.frames) e
  obtain ⟨journal', -, heq'⟩ := afterEntry_of_active (active_of_frames h.frames') e
  rw [heq, heq', h.attributes]
  exact ⟨rfl, h.verbatim, h.directories, h.frames, h.frames'⟩

theorem Alike.afterClosing_left (h : Alike c c') (d : Closing) (origin : Origin) :
    Alike (c.afterClosing d origin) c' := by
  have hframes : ∀ f ∈ (c.afterClosing d origin).frames, f.active = true :=
    fun f hf => h.frames f (mem_frames_afterClosing hf)
  obtain ⟨frames, journal, heq, -⟩ := c.afterClosing_eq d origin
  rw [heq] at hframes ⊢
  exact ⟨h.attributes, h.verbatim, h.directories, hframes, h.frames'⟩

theorem Alike.symm (h : Alike c c') : Alike c' c :=
  ⟨h.attributes.symm, h.verbatim.symm, h.directories.symm, h.frames', h.frames⟩

/-- The end of a block leaves true blocks, whichever are open. -/
theorem Alike.afterClosing_right (h : Alike c c') (d : Closing) (origin : Origin) :
    Alike c (c'.afterClosing d origin) :=
  (h.symm.afterClosing_left d origin).symm

theorem Alike.enter_left (h : Alike c c') (d : Opening) (origin : Origin) :
    Alike (c.enter d true origin) c' :=
  ⟨h.attributes, h.verbatim, h.directories, List.forall_mem_cons.2 ⟨rfl, h.frames⟩, h.frames'⟩

/-- The opening of a true block leaves true blocks. -/
theorem Alike.enter_right (h : Alike c c') (d : Opening) (origin : Origin) :
    Alike c (c'.enter d true origin) :=
  (h.symm.enter_left d origin).symm

/-- Conditions with the same answer are decided alike. -/
theorem Alike.judge (h : Alike c c') {d d' : Opening}
    (hdecide : d'.decide setting.evaluator c.attributes = d.decide setting.evaluator c.attributes)
    (origin origin' : Origin) :
    Parallel (fun p q => q.1 = p.1 ∧ Alike p.2 q.2) (c.judge setting d origin)
      (c'.judge setting d' origin') := by
  unfold Context.judge
  rw [h.attributes, hdecide]
  split
  · exact .ok ⟨rfl, h⟩
  · exact .error rfl
  · exact .ok ⟨rfl, h.of_journal _ _⟩

/-- An include is resolved alike at lines that are alike. -/
theorem Alike.resolve (hhooks : ∀ p ∈ setting.registry.includeProcessors, p.Unnumbered)
    (h : Alike c c') (horigin : origin'.lineage = origin.lineage) (d : Include) :
    Parallel (fun p q => List.Forall₂ Line.Alike p.1 q.1 ∧ Alike p.2 q.2)
      (c.resolve setting d origin) (c'.resolve setting d origin') := by
  unfold Context.resolve Resolution.ofDirective
  rw [h.attributes, h.directories, IncludeRequest.ofDirective_at c.attributes d origin origin']
  cases hrequest : IncludeRequest.ofDirective c.attributes d origin with
  | error p => exact .ok ⟨.nil, rfl, h.verbatim, rfl, h.frames, h.frames'⟩
  | ok request =>
    obtain rfl : request.origin = origin := origin_of_request hrequest
    have hbase : Resolution.baseDirectory setting c.directories origin' =
        Resolution.baseDirectory setting c.directories request.origin := by
      rw [Resolution.baseDirectory, Resolution.baseDirectory, Origin.file_eq_of_lineage horigin]
    dsimp only [Except.map]
    rw [hbase, Search.ofRequest_at hhooks horigin]
    cases (Search.ofRequest setting
        (Resolution.baseDirectory setting c.directories request.origin) request).finding with
    | error abort => exact .error rfl
    | ok finding =>
      have hfound := Resolution.ofFinding_at setting c.directories c.attributes horigin finding
      exact .ok ⟨hfound.2, rfl, h.verbatim, hfound.1, h.frames, h.frames'⟩

end Context

/-! ## Blocks that are left out -/

namespace BlockEnd

/-- The lines that are left after the end of the innermost of the given open blocks and all blocks
around it. -/
def left (targets : List String) : List Line → List Line
  | [] => []
  | line :: rest =>
    let inner := (advance targets (Directive.ofLine? (strippedEnd line.text))).1
    if inner = [] then rest else left inner rest

variable {targets : List String} {count n : Nat} {lines : List Line}

/-- What is left is told by the number of lines up to the end. -/
theorem left_eq_drop (h : (findFrom targets count lines).length = some n) :
    left targets lines = lines.drop (n - count) := by
  induction lines generalizing targets count with
  | nil => cases h
  | cons line rest ih =>
    rw [left]
    by_cases hended : (advance targets (Directive.ofLine? (strippedEnd line.text))).1 = []
    · -- the blocks end with this line, and all lines after it are left
      rw [findFrom_of_ended hended] at h
      cases h
      rw [if_pos hended, Nat.add_sub_cancel_left, List.drop_succ_cons, List.drop_zero]
    · rw [length_findFrom_of_open hended] at h
      have hlt := lt_length_findFrom h
      obtain ⟨k, rfl⟩ : ∃ k, n = count + 1 + k := ⟨n - (count + 1), by omega⟩
      have hnumber : count + 1 + k - count = k + 1 := by omega
      rw [if_neg hended, ih h, Nat.add_sub_cancel_left, hnumber, List.drop_succ_cons]

/-- Nothing is left of lines that do not end the blocks. -/
theorem left_eq_nil (h : (findFrom targets count lines).length = none) :
    left targets lines = [] := by
  induction lines generalizing targets count with
  | nil => rfl
  | cons line rest ih =>
    rw [left]
    by_cases hended : (advance targets (Directive.ofLine? (strippedEnd line.text))).1 = []
    · rw [findFrom_of_ended hended] at h
      cases h
    · rw [length_findFrom_of_open hended] at h
      rw [if_neg hended, ih h]

end BlockEnd

/-- After a block that is left out, the lines after its end are still to be read. -/
theorem State.pending_skip (s : State) (line : Line) (rest : List Line) (d : Opening) :
    (s.skip line rest d).pending = BlockEnd.left [d.target] rest := by
  cases hlength : (BlockEnd.find d.target rest).length with
  | some n =>
    rw [skip_of_some hlength, BlockEnd.left_eq_drop hlength, Nat.sub_zero]
    rfl
  | none =>
    rw [skip_of_none hlength, BlockEnd.left_eq_nil hlength]
    rfl

/-- Whether a relation of lines that are still to be read lasts: it is so with lines in front that
are alike, and of the lines that are left after any blocks. -/
structure Line.Lasting (R : List Line → List Line → Prop) : Prop where
  append : ∀ {new new' rest rest' : List Line}, List.Forall₂ Line.Alike new new' → R rest rest' →
    R (new ++ rest) (new' ++ rest')
  left : ∀ {rest rest' : List Line} (targets : List String), targets ≠ [] → R rest rest' →
    R (BlockEnd.left targets rest) (BlockEnd.left targets rest')

/-- Lines that are alike stay so. -/
theorem Line.Alike.lasting : Line.Lasting (List.Forall₂ Line.Alike) where
  append hnew hrest := List.rel_append hnew hrest
  left targets _ h := by
    induction h generalizing targets with
    | nil => exact .nil
    | cons hline hrest ih =>
      rw [BlockEnd.left, BlockEnd.left, hline.text]
      split
      · exact hrest
      · rename_i hopen
        exact ih _ hopen

/-! ## Steps -/

namespace State

/-- Whether two reductions have come to the same texts and know the same, and the lines that are
still to be read are related. -/
structure Alike (R : List Line → List Line → Prop) (s u : State) : Prop where
  context : Context.Alike s.toContext u.toContext
  emitted : u.emitted.toList.map (·.text) = s.emitted.toList.map (·.text)
  pending : R s.pending u.pending

variable {setting : Setting} {R : List Line → List Line → Prop} {s u : State} {line line' : Line}
  {rest rest' new new' : List Line} {c c' : Context}

/-- Reductions that are alike to which related lines are put. -/
theorem Alike.await (h : Alike R (s.await rest) (u.await rest')) (hcontext : Context.Alike c c')
    (hnew : R new new') : Alike R ((s.withContext c).await new) ((u.withContext c').await new') :=
  ⟨hcontext, h.emitted, hnew⟩

/-- Reductions that are alike emit lines that are alike. -/
theorem Alike.emit (h : Alike R (s.await rest) (u.await rest')) (hline : line.Alike line')
    (hcontext : Context.Alike c c') :
    Alike R ((s.withContext c).emit line rest) ((u.withContext c').emit line' rest') :=
  ⟨hcontext, texts_push h.emitted hline.text, h.pending⟩

section Lasting

variable (hlasting : Line.Lasting R) (h : Alike R (s.await rest) (u.await rest'))
  (hline : line.Alike line')
include hlasting h hline

theorem Alike.onInclude (hhooks : ∀ p ∈ setting.registry.includeProcessors, p.Unnumbered)
    (d : Include) :
    Parallel (Alike R) (s.onInclude setting line rest d) (u.onInclude setting line' rest' d) := by
  refine (h.context.resolve hhooks hline.lineage d).map ?_
  rintro ⟨lines, after⟩ ⟨lines', after'⟩ ⟨hlines, hcontext⟩
  exact h.await hcontext (hlasting.append hlines h.pending)

theorem Alike.onJudged (hcontext : Context.Alike c c') (d : Opening) (active : Bool) :
    Alike R ((s.withContext c).onJudged line rest d active)
      ((u.withContext c').onJudged line' rest' d active) := by
  unfold State.onJudged
  cases d.inlineText? with
  | some text =>
    cases active with
    | true =>
      have hnew : List.Forall₂ Line.Alike [⟨text, line.origin⟩] [⟨text, line'.origin⟩] :=
        .cons ⟨rfl, hline.lineage⟩ .nil
      exact h.await hcontext (hlasting.append hnew h.pending)
    | false => exact h.await hcontext h.pending
  | none =>
    cases active with
    | true => exact h.await ((hcontext.enter_left d _).enter_right d _) h.pending
    | false =>
      -- what is reported on a block that is left out leaves nothing behind but itself
      obtain ⟨hemitted, journal, heq, -⟩ := (s.withContext c).skip_eq line rest d
      obtain ⟨hemitted', journal', heq', -⟩ := (u.withContext c').skip_eq line' rest' d
      refine ⟨?_, ?_, ?_⟩
      · dsimp only
        rw [heq, heq']
        exact hcontext.of_journal journal journal'
      · dsimp only
        rw [hemitted, hemitted']
        exact h.emitted
      · dsimp only
        rw [pending_skip, pending_skip]
        exact hlasting.left _ (List.cons_ne_nil _ _) h.pending

/-- Unless conditionals are preserved, lines that are alike do the same, whatever lines come after
them. -/
theorem Alike.onLine (hnormal : setting.options.preserveConditionals.meaning = false)
    (hhooks : ∀ p ∈ setting.registry.includeProcessors, p.Unnumbered) :
    Parallel (Alike R) (s.onLine setting line rest) (u.onLine setting line' rest') := by
  have hverbatim : u.verbatim = s.verbatim := h.context.verbatim
  cases hfound : Hit.ofLine? s.verbatim line.text with
  | mk verbatim found =>
    have hfound' : Hit.ofLine? u.verbatim line'.text = (verbatim, found) := by
      rw [hverbatim, hline.text, hfound]
    cases found with
    | none =>
      -- plain lines go to the output
      rw [onLine_of_none hfound, onLine_of_none hfound']
      exact .ok (h.emit hline (h.context.withVerbatim verbatim))
    | some hit =>
      obtain rfl := Hit.verbatim_of_ofLine? hfound
      rw [onLine_of_some hfound, onLine_of_some (hverbatim.symm ▸ hfound')]
      rcases hit with (d | d | d) | e
      · exact h.onInclude hlasting hline hhooks d
      · dsimp only [onHit]
        rw [if_neg (ne_true_of_eq_false hnormal), if_neg (ne_true_of_eq_false hnormal)]
        refine (h.context.judge rfl line.origin line'.origin).map ?_
        rintro ⟨active, after⟩ ⟨active', after'⟩ ⟨rfl, hcontext⟩
        exact h.onJudged hlasting hline hcontext d active'
      · dsimp only [onHit, onClosing]
        rw [hnormal]
        have hcontext := h.context.afterClosing_left d line.origin
        exact .ok (h.await (hcontext.afterClosing_right d line'.origin) h.pending)
      · exact .ok (h.emit hline (h.context.afterEntry e))

end Lasting

/-- Unless conditionals are preserved, reductions of lines that differ in their numbers only come to
the same texts and the same attributes, or are interrupted for the same reason. -/
theorem run_renumbered (hnormal : setting.options.preserveConditionals.meaning = false)
    (hhooks : ∀ p ∈ setting.registry.includeProcessors, p.Unnumbered)
    (h : Alike (List.Forall₂ Line.Alike) s u) :
    Parallel (fun p q => q.1.map (·.text) = p.1.map (·.text) ∧ q.2.attributes = p.2.attributes)
      (s.run setting) (u.run setting) := by
  refine run_together (fun s u h => ?_) (fun s u h => ⟨h.emitted, h.context.attributes⟩) h
  cases hpending : s.pending with
  | nil =>
    have hlines := h.pending
    rw [hpending] at hlines
    rw [step_of_nil hpending, step_of_nil (List.forall₂_nil_left_iff.1 hlines)]
    exact .ok .none
  | cons line rest =>
    have hlines := h.pending
    rw [hpending] at hlines
    obtain ⟨line', rest', hline, hrest, hpending'⟩ := List.forall₂_cons_left_iff.1 hlines
    rw [step_of_cons hpending, step_of_cons hpending']
    have hawait : Alike (List.Forall₂ Line.Alike) (s.await rest) (u.await rest') :=
      ⟨h.context, h.emitted, hrest⟩
    exact (hawait.onLine Line.Alike.lasting hline hnormal hhooks).map fun _ _ hafter =>
      .some hafter

end State

end Transclude
