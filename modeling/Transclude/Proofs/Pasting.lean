import Mathlib.Order.WellFounded
import Transclude.Proofs.Commutation
import Transclude.Proofs.Lockstep

/-!
# Includes as pastes

An include without attributes stands for the lines of its file, as if these had been in the document
all along. What a reduction does up to an include depends on the lines before it only, and after it
the two reductions are in step, whichever blocks the lines open or end. The lines may be pasted into
the buffer at any point of the reduction, and may be of any origin.

## Main definitions

* `State.Framed`      : whether a step is the same whatever comes after some lines, or takes more.
* `State.EndsOmitted` : whether a block that is left out at the next line ends.
* `State.Embeds`      : whether an include without attributes brings in a file.
* `Loop.ComesTo`      : whether a loop comes to a line of its buffer.

## Main statements

* `State.Leads.reframe`   : what comes after some lines makes no difference while they are read.
* `Loop.comesTo_of_found` : a loop comes to the line that its next turn finds.
* `Loop.run_pasted`       : an include is a paste.
-/

namespace Transclude

open Transclude.Text

/-! ## Lines further on -/

namespace BlockEnd

variable {targets : List String} {count n : Nat} {lines : List Line}

/-- A block that ends among some lines ends there whatever comes after them. -/
theorem findFrom_append (h : (findFrom targets count lines).length = some n) (more : List Line) :
    findFrom targets count (lines ++ more) = findFrom targets count lines := by
  induction lines generalizing targets count with
  | nil => cases h
  | cons line rest ih =>
    rw [List.cons_append]
    by_cases hended : (advance targets (Directive.ofLine? (strippedEnd line.text))).1 = []
    · rw [findFrom_of_ended hended, findFrom_of_ended hended]
    · rw [length_findFrom_of_open hended] at h
      simp only [findFrom, ih h]

theorem lt_length_findFrom (h : (findFrom targets count lines).length = some n) : count < n := by
  induction lines generalizing targets count with
  | nil => cases h
  | cons line rest ih =>
    by_cases hended : (advance targets (Directive.ofLine? (strippedEnd line.text))).1 = []
    · rw [findFrom_of_ended hended] at h
      cases h
      exact Nat.lt_succ_self _
    · rw [length_findFrom_of_open hended] at h
      exact Nat.lt_of_succ_lt (ih h)

/-- A block that does not end among some lines ends after them, if it does. -/
theorem lt_length_findFrom_append {more : List Line}
    (hopen : (findFrom targets count lines).length = none)
    (h : (findFrom targets count (lines ++ more)).length = some n) : count + lines.length < n := by
  induction lines generalizing targets count with
  | nil => exact lt_length_findFrom h
  | cons line rest ih =>
    rw [List.cons_append] at h
    by_cases hended : (advance targets (Directive.ofLine? (strippedEnd line.text))).1 = []
    · rw [findFrom_of_ended hended] at hopen
      cases hopen
    · rw [length_findFrom_of_open hended] at hopen h
      have hlt := ih hopen h
      rw [List.length_cons]
      omega

end BlockEnd

namespace State

variable {setting : Setting} {s t : State} {d : Opening} {lines : List Line}

/-- The state in which more lines are to be read after the others. -/
def queue (s : State) (more : List Line) : State := s.await (s.pending ++ more)

/-- Whether what is done given some lines is done alike whatever comes after them, or takes the line
after them, too. -/
inductive Framed (f : List Line → Except Interruption State) (lines : List Line) : Prop
  | within (alike : ∀ more, f (lines ++ more) = (f lines).map (·.queue more))
  | beyond (past : ∀ first more t, f (lines ++ first :: more) = .ok t → t.pending <:+ more)

/-- A block that is left out and ends among some lines is left out alike whatever comes after
them. -/
theorem skip_append {n : Nat} (h : (BlockEnd.find d.target lines).length = some n) (s : State)
    (line : Line) (more : List Line) :
    s.skip line (lines ++ more) d = (s.skip line lines d).queue more := by
  have hfind : BlockEnd.find d.target (lines ++ more) = BlockEnd.find d.target lines :=
    BlockEnd.findFrom_append h more
  have hproblems : problemsIn (lines ++ more) (BlockEnd.find d.target lines).problems =
      problemsIn lines (BlockEnd.find d.target lines).problems := by
    refine List.filterMap_congr fun (m, message) hp => ?_
    dsimp only
    rw [List.getElem?_append_left (BlockEnd.index_problems_find _ hp)]
  have hdrop : (lines ++ more).drop n = lines.drop n ++ more :=
    List.drop_append_of_le_length (BlockEnd.length_find_le h)
  rw [skip_of_some h, skip_of_some (hfind ▸ h), hfind, hproblems, hdrop]
  rfl

/-- A block that does not end among some lines takes the line after them, too. -/
theorem pending_skip_beyond (h : (BlockEnd.find d.target lines).length = none) (s : State)
    (line first : Line) (more : List Line) :
    (s.skip line (lines ++ first :: more) d).pending <:+ more := by
  cases hlength : (BlockEnd.find d.target (lines ++ first :: more)).length with
  | none =>
    rw [skip_of_none hlength]
    exact List.nil_suffix
  | some n =>
    have hlt := BlockEnd.lt_length_findFrom_append h hlength
    obtain ⟨k, rfl⟩ : ∃ k, n = lines.length + (k + 1) := ⟨n - lines.length - 1, by omega⟩
    have hdrop : (lines ++ first :: more).drop (lines.length + (k + 1)) = more.drop k := by
      rw [← List.drop_drop, List.drop_left, List.drop_succ_cons]
    rw [skip_of_some hlength, hdrop]
    exact List.drop_suffix _ _

/-- Whether a block that is left out at the next line, if there is one, ends among the lines after
it. -/
def EndsOmitted (setting : Setting) (s : State) : Prop :=
  ∀ line rest d c, s.pending = line :: rest →
    Directive.ofLine? (strippedEnd line.text) = some (.opening d) → d.inlineText? = none →
      s.judge setting d line.origin = .ok (false, c) →
        (BlockEnd.find d.target rest).length ≠ none

instance (setting : Setting) (s : State) : Decidable (s.EndsOmitted setting) :=
  decidable_of_iff (∀ line ∈ s.pending.head?, ∀ d ∈ line.opening?, d.inlineText? = none →
      (s.judge setting d line.origin).toOption.map (·.1) = some false →
        (BlockEnd.find d.target s.pending.tail).length ≠ none) <| by
    constructor
    · intro h line rest d c hpending hd hblock hjudged
      rw [hpending] at h
      exact h line rfl d (Line.mem_opening?.2 hd) hblock (map_fst_toOption.2 ⟨c, hjudged⟩)
    · intro h line hline d hd hblock hjudged
      obtain ⟨rest, hpending⟩ := List.head?_eq_some_iff.1 hline
      obtain ⟨c, hjudged⟩ := map_fst_toOption.1 hjudged
      rw [hpending]
      exact h line rest d c hpending (Line.mem_opening?.1 hd) hblock hjudged

theorem onJudged_append (s : State) (line : Line) {active : Bool}
    (hends : active = false → d.inlineText? = none → (BlockEnd.find d.target lines).length ≠ none)
    (more : List Line) :
    s.onJudged line (lines ++ more) d active = (s.onJudged line lines d active).queue more := by
  unfold onJudged
  cases hinline : d.inlineText? with
  | some text =>
    cases active with
    | true => rfl
    | false => rfl
  | none =>
    cases active with
    | true => rfl
    | false =>
      obtain ⟨n, hlength⟩ := Option.ne_none_iff_exists'.1 (hends rfl hinline)
      exact skip_append hlength s line more

theorem onHit_append {line : Line} {hit : Hit}
    (hends : setting.options.preserveConditionals.meaning = false → ∀ d c,
      hit = .directive (.opening d) → d.inlineText? = none →
        s.judge setting d line.origin = .ok (false, c) →
          (BlockEnd.find d.target lines).length ≠ none) (more : List Line) :
    s.onHit setting line (lines ++ more) hit =
      (s.onHit setting line lines hit).map (·.queue more) := by
  rcases hit with (d | d | d) | e
  · dsimp only [onHit, onInclude]
    cases s.resolve setting d line.origin with
    | error i => rfl
    | ok resolved =>
      obtain ⟨new, c⟩ := resolved
      simp only [Except.map, queue, await, List.append_assoc]
  · unfold onHit
    dsimp only
    split
    · unfold onPreserved
      cases d.inlineText? with
      | some text =>
        dsimp only
        split
        · rfl
        · rfl
      | none =>
        cases s.judgeWithin setting d line.origin with
        | error i => rfl
        | ok judged => rfl
    · -- only here a block may be left out
      rename_i hpreserved
      have hnormal := eq_false_of_ne_true hpreserved
      unfold onOpening
      cases hjudged : s.judge setting d line.origin with
      | error i => rfl
      | ok judged =>
        obtain ⟨active, c⟩ := judged
        refine congrArg Except.ok (onJudged_append (s.withContext c) line ?_ more)
        rintro rfl hblock
        exact hends hnormal d c rfl hblock hjudged
  · dsimp only [onHit, onClosing]
    split
    · rfl
    · rfl
  · rfl

/-- Where the block that is left out at a line ends among the lines after it, what is done about the
line is done alike whatever comes after these. -/
theorem onLine_append {line : Line}
    (hends : setting.options.preserveConditionals.meaning = false →
      (s.await (line :: lines)).EndsOmitted setting) (more : List Line) :
    s.onLine setting line (lines ++ more) =
      (s.onLine setting line lines).map (·.queue more) := by
  cases hfound : Hit.ofLine? s.verbatim line.text with
  | mk verbatim found =>
    cases found with
    | none =>
      rw [onLine_of_none hfound, onLine_of_none hfound]
      rfl
    | some hit =>
      obtain rfl := Hit.verbatim_of_ofLine? hfound
      rw [onLine_of_some hfound, onLine_of_some hfound]
      refine onHit_append (fun hnormal d c hhit hblock hjudged => ?_) more
      have hd : Directive.ofLine? (strippedEnd line.text) = some (.opening d) :=
        Hit.directive_of_ofLine? (by rw [hfound, hhit])
      exact hends hnormal line lines d c rfl hd hblock hjudged

theorem framed_onLine (setting : Setting) (s : State) (line : Line) (lines : List Line) :
    Framed (s.onLine setting line) lines := by
  by_cases hends : setting.options.preserveConditionals.meaning = false →
      (s.await (line :: lines)).EndsOmitted setting
  · exact .within fun more => onLine_append hends more
  · -- a block is left out that does not end among the lines
    obtain ⟨hnormal, hopen⟩ := Classical.not_imp.1 hends
    simp only [EndsOmitted, not_forall, not_not] at hopen
    obtain ⟨_, _, d, c, hpending, hd, hblock, hjudged, hlength⟩ := hopen
    obtain ⟨rfl, rfl⟩ := List.cons.inj hpending
    have hjudged : s.judge setting d line.origin = .ok (false, c) := hjudged
    refine .beyond fun first more t h => ?_
    rw [onLine_of_some (Hit.ofLine?_of_directive _ hd), onHit,
      if_neg (ne_true_of_eq_false hnormal), onOpening, hjudged] at h
    simp only [Except.map, onJudged, hblock] at h
    cases h
    exact pending_skip_beyond hlength _ line first more

/-- What is done about a line does not depend on the lines that were to be read before. -/
theorem onLine_await (setting : Setting) (s : State) (pending : List Line) (line : Line)
    (rest : List Line) :
    (s.await pending).onLine setting line rest = s.onLine setting line rest := by
  have hverbatim : (s.await pending).verbatim = s.verbatim := rfl
  unfold onLine
  rw [hverbatim]
  split
  · rfl
  · -- the kind of the find has to be known for the states to be compared
    rename_i hit _
    rcases hit with (d | d | d) | e
    all_goals rfl

/-- Lines of which the first has been taken do not come back. -/
theorem Leads.not_suffix (h : Leads setting s t)
    (hlt : PendingLt setting.options.maxIncludeDepth.meaning s.pending lines) :
    ¬ lines <:+ t.pending := by
  rintro ⟨inner, hpending⟩
  have hirrefl := (PendingLt.wellFounded setting.options.maxIncludeDepth.meaning).transGen.irrefl
  have htaken := h.transGen_pendingLt hlt
  cases inner with
  | nil =>
    obtain rfl : lines = t.pending := hpending
    exact hirrefl.irrefl _ htaken
  | cons first inner =>
    have hbefore : PendingLt setting.options.maxIncludeDepth.meaning lines t.pending := by
      rw [← hpending]
      exact .of_suffix (List.suffix_append inner lines)
    exact hirrefl.irrefl _ (htaken.tail hbefore)

/-- What comes after some lines makes no difference until the first line after them is taken: all
lines after them may be exchanged. -/
theorem Leads.reframe {inner rest : List Line} (h : Leads setting s t)
    (hpending : s.pending = lines ++ rest) (hinner : t.pending = inner ++ rest) (hne : rest ≠ [])
    (more : List Line) : Leads setting (s.await (lines ++ more)) (t.await (inner ++ more)) := by
  -- the lines in front are others after every step, and those at the end are the same
  induction h generalizing lines with
  | refl s =>
    obtain rfl : inner = lines := List.append_cancel_right (hinner.symm.trans hpending)
    exact .refl _
  | @step s t u hafter hleads ih =>
    obtain ⟨line, tail, hs, honLine⟩ := onLine_of_step hafter
    have hlt := pendingLt_of_after hafter
    have hsuffix : rest <:+ u.pending := ⟨inner, hinner.symm⟩
    cases lines with
    | nil =>
      -- the first of the lines that are still there would have been taken
      rw [hpending] at hlt
      exact absurd hsuffix (hleads.not_suffix hlt)
    | cons first lines =>
      obtain ⟨rfl, htail⟩ := List.cons.inj (hs.symm.trans hpending)
      rw [htail, List.append_eq] at honLine
      rcases framed_onLine setting s line lines with halike | hpast
      · rw [halike] at honLine
        obtain ⟨t, hwithin, rfl⟩ := eq_ok_of_map honLine
        have hafter : After setting (t.queue more) (s.await (line :: (lines ++ more))) := by
          rw [After, step_of_cons rfl, onLine_await, halike, hwithin]
          rfl
        exact .step hafter (ih rfl hinner)
      · -- a step that goes past the lines in front takes the line after them
        obtain ⟨first, later, rfl⟩ := List.exists_cons_of_ne_nil hne
        have hdropped : PendingLt setting.options.maxIncludeDepth.meaning t.pending
            (first :: later) := .of_suffix (hpast first later t honLine)
        exact absurd hsuffix (hleads.not_suffix hdropped)

/-- Until the first line after some lines is taken, these may as well be alone. -/
theorem Leads.isolate {inner rest : List Line} (h : Leads setting s t)
    (hpending : s.pending = lines ++ rest) (hinner : t.pending = inner ++ rest) :
    Leads setting (s.await lines) (t.await inner) := by
  by_cases hne : rest = []
  · subst hne
    rw [List.append_nil] at hpending hinner
    rwa [← hpending, ← hinner]
  · simpa using h.reframe hpending hinner hne []

end State

/-! ## The lines of a file -/

/-- With braces in its target or without, an include with an empty list asks for its target only. -/
theorem attributes_of_request {a : AttributeSet} {d : Include} {origin : Origin}
    {request : IncludeRequest} (h : IncludeRequest.ofDirective a d origin = .ok request)
    (hbare : d.attrList = "") : request.attributes = [] := by
  have key : ∀ target : String,
      (if target = "" then Except.error IncludeProblem.emptyTarget
        else Except.ok (IncludeRequest.mk target (AttrList.ofText "") origin d a.values)) =
        .ok request → request.attributes = [] := by
    intro target h
    split at h
    · cases h
    · cases h
      rfl
  -- the empty list has no reference that could be replaced, so it is the same on both ways
  unfold IncludeRequest.ofDirective at h
  rw [hbare] at h
  dsimp only at h
  split at h
  · split at h
    · cases h
    · exact key _ h
  · exact key _ h

/-- All lines of a file have the texts of the file. -/
theorem Resolution.texts_fileLines (request : IncludeRequest) (path : String)
    (texts warnings : List String) :
    (fileLines request path ⟨Selection.numbered texts, warnings⟩).map (·.text) = texts := by
  rw [fileLines, Selection.numbered, List.map_map, List.map_map]
  exact List.zipIdx_map_fst 0 texts

namespace State

/-- Whether the line `line` is an include without attributes that brings in the file at `path`: its
target, after substitution, is no link, and the jail permits the path for it, at which there is a
file with the text `content` that is none of those that lead to the line. -/
structure Embeds (setting : Setting) (s : State) (line : Line) (request : IncludeRequest)
    (path content : String) : Prop where
  directive : Directive.ofLine? (strippedEnd line.text) = some (.include request.directive)
  bare : request.directive.attrList = ""
  requested : IncludeRequest.ofDirective s.attributes request.directive line.origin = .ok request
  depth_le : line.origin.depth + 1 ≤ setting.options.maxIncludeDepth.meaning
  no_link : Path.isUri request.target = false
  permitted : setting.jail.resolve setting.cwd
    (Resolution.baseDirectory setting s.directories line.origin) request.target = .ok path
  fresh : path ∉ line.origin.lineage
  is_file : setting.files.isFile setting.cwd path = true
  decoded : Search.readText setting setting.options.encoding.meaning path = .ok (.ok content)

variable {setting : Setting} {s : State} {line : Line} {request : IncludeRequest}
  {root path content : String} {after pasted : List Line}

/-- The search for the file finds all its lines. -/
theorem Embeds.finding (hempty : setting.registry.includeProcessors = [])
    (h : s.Embeds setting line request path content) :
    (Search.ofRequest setting (Resolution.baseDirectory setting s.directories line.origin)
      request).finding = .ok (.file path ⟨Selection.numbered (splitLines content), []⟩) := by
  have horigin := origin_of_request h.requested
  have hattributes := attributes_of_request h.requested h.bare
  have hdepth : ¬ setting.options.maxIncludeDepth.meaning < request.origin.depth + 1 := by
    rw [horigin]
    exact Nat.not_lt.2 h.depth_le
  have hclaim : setting.registry.claim request.target = [] := by
    rw [Registry.claim, hempty, List.filter_nil]
  have hfresh : request.origin.lineage.contains path = false := by
    rw [horigin]
    exact eq_false_of_ne_true fun hmem => h.fresh (List.contains_iff_mem.1 hmem)
  have hall : Selection.ofAttributes [] path (splitLines content) =
      .ok ⟨Selection.numbered (splitLines content), []⟩ := rfl
  -- no extension claims the include, so the file is looked for
  rw [Search.ofRequest, if_neg hdepth, hclaim]
  dsimp only [Search.supply?]
  rw [if_neg (ne_true_of_eq_false h.no_link), h.permitted]
  -- the list names no encoding, so the file is read in that of the options
  dsimp only [Search.atPath]
  rw [if_neg (ne_true_of_eq_false hfresh), if_pos h.is_file, hattributes]
  dsimp only [Table.get?]
  rw [h.decoded]
  dsimp only
  rw [hall]

/-- The lines of the file take the place of the include, and its directory is known then. -/
theorem Embeds.resolution (hempty : setting.registry.includeProcessors = [])
    (h : s.Embeds setting line request path content) :
    ∃ r, Resolution.ofDirective setting s.directories s.attributes request.directive
        line.origin = .ok r ∧
      r.lines.map (·.text) = splitLines content ∧
      r.directories = s.directories.insert path (Path.directory path) := by
  have hoffset : ∀ lines, Resolution.offsetLines s.attributes request lines = lines := by
    intro lines
    unfold Resolution.offsetLines
    rw [attributes_of_request h.requested h.bare]
    rfl
  unfold Resolution.ofDirective
  rw [h.requested]
  dsimp only
  rw [h.finding hempty]
  refine ⟨_, rfl, ?_, rfl⟩
  dsimp only [Resolution.ofFinding]
  rw [hoffset, Resolution.texts_fileLines]

/-- After the include the reduction is in step with one in which lines with the texts of the file
are pasted in its place, whatever their origins are. -/
theorem Embeds.exists_after (hempty : setting.registry.includeProcessors = [])
    (h : s.Embeds setting line request path content) (hhoused : s.Housed setting root)
    (hpending : s.pending = line :: after)
    (hunmarked : ∀ text ∈ splitLines content, ¬ "include::".toList <:+: text.toList)
    (hpasted : pasted.map (·.text) = splitLines content) :
    ∃ t, After setting t s ∧ InStep t (s.await (pasted ++ after)) := by
  obtain ⟨r, hr, htexts, hdirectories⟩ := h.resolution hempty
  let c : Context :=
    { s.toContext with directories := r.directories, journal := s.journal ++ r.events }
  have hafter : After setting ((s.withContext c).await (r.lines ++ after)) s := by
    rw [After, step_of_include setting hpending h.directive, Context.resolve, hr]
    rfl
  have hcontext : Context.Accords r.directories s.directories c s.toContext :=
    ⟨.of_kept rfl rfl rfl, rfl, rfl⟩
  refine ⟨_, hafter, r.directories, s.directories, hcontext, rfl, List.rel_append ?_ ?_⟩
  · -- the lines of the file and those that are pasted have only their texts in common
    refine Line.Accords.of_texts (hpasted.trans htexts.symm) fun l hl => hunmarked l.text ?_
    rw [← htexts]
    exact List.mem_map_of_mem hl
  · -- a file of which lines are still to be read after the include has its directory already
    have hline : line ∈ s.pending := by
      rw [hpending]
      exact List.mem_cons_self
    have hroot : path ≠ root := fun heq => h.fresh (heq ▸ hhoused.rooted line hline)
    refine List.forall₂_same.2 fun l hl => .same ?_
    rw [hdirectories, Table.get?_insert]
    split
    · rename_i hfile
      have hl : l ∈ s.pending := by
        rw [hpending]
        exact List.mem_cons_of_mem _ hl
      obtain ⟨dir, hdir⟩ := Option.isSome_iff_exists.1 (hhoused.placed l hl)
      rw [hdir, hhoused.known _ _ hdir, ← hfile, Setting.home, if_neg hroot]
    · rfl

end State

namespace Loop

/-- Whether a loop comes to a line of its buffer: `before` are the lines in front of the line, and
`after` those behind it. The line is at the cursor or after it, and is the next one in the state
`s`. -/
structure ComesTo (setting : Setting) (l : Loop) (before : List Line) (line : Line)
    (after : List Line) (s : State) : Prop where
  lines : l.buffer.lines = before ++ line :: after
  cursor_le : l.cursor ≤ before.length
  leads : State.Leads setting l.state s
  pending : s.pending = line :: after

variable {setting : Setting} {l : Loop} {ls : List Loop} {before after pasted : List Line}
  {line : Line} {s : State} {request : IncludeRequest} {path content : String}

/-- A loop comes to the line that its next turn finds. -/
theorem comesTo_of_found (setting : Setting) {verbatim : Verbatim} {index : Int} {hit : Hit}
    (h : Scan.inBuffer l.verbatim l.buffer l.cursor = .ok (verbatim, some (index, hit))) :
    ∃ before line after s, l.ComesTo setting before line after s ∧ index = before.length ∧
      Hit.ofLine? verbatim line.text = (verbatim, some hit) := by
  rw [Scan.inBuffer_natCast] at h
  obtain ⟨skipped, line, rest, hunread, rfl, hsilent, hhit⟩ :=
    Scan.found_of_next (Except.ok.inj h)
  have hlength := length_before_unread hunread
  have hleads := State.leads_of_silent setting hsilent l.state rfl hunread
  exact ⟨_, line, rest, _, ⟨lines_of_unread hunread, by omega, hleads, rfl⟩, by omega, hhit⟩

/-- What comes after the lines in front makes no difference until the loop comes to the line. -/
theorem ComesTo.reframe (h : l.ComesTo setting before line after s) (more : List Line) :
    State.Leads setting ({ l with buffer := ⟨before ++ more⟩ } : Loop).state (s.await more) := by
  have hdrop : l.state.pending = before.drop l.cursor ++ s.pending := by
    show l.buffer.lines.drop l.cursor = _
    rw [h.lines, h.pending, List.drop_append_of_le_length h.cursor_le]
  have hstate : ({ l with buffer := ⟨before ++ more⟩ } : Loop).state =
      l.state.await (before.drop l.cursor ++ more) := by
    simp only [state, State.await, h.lines, List.take_append_of_le_length h.cursor_le,
      List.drop_append_of_le_length h.cursor_le]
  rw [hstate]
  have hne : s.pending ≠ [] := by
    rw [h.pending]
    exact List.cons_ne_nil _ _
  exact h.leads.reframe hdrop (List.nil_append _).symm hne more

/-- An include without attributes is a paste. At any point of a reduction at which the include is
still to be read, the lines of its file may be pasted in its place, with any origins, if none of
them has the keyword of an include in it: the reduction comes to lines with the same texts and to
the same attributes, or is interrupted for the same reason. -/
theorem run_pasted {file : String} {attributes : AttributeSet} {b : Buffer}
    (hempty : setting.registry.includeProcessors = [])
    (hroot : ∀ line ∈ b.lines, line.origin.file = file)
    (htrace : Trace setting (.start setting file attributes b) ls) (hl : l ∈ ls)
    (hcomes : l.ComesTo setting before line after s)
    (hembeds : s.Embeds setting line request path content)
    (hunmarked : ∀ text ∈ splitLines content, ¬ "include::".toList <:+: text.toList)
    (hpasted : pasted.map (·.text) = splitLines content) :
    Parallel (fun p q => q.1.map (·.text) = p.1.map (·.text) ∧ q.2.attributes = p.2.attributes)
      (Loop.run setting (.start setting file attributes b))
      (Loop.run setting { l with buffer := ⟨before ++ (pasted ++ after)⟩ }) := by
  have hhoused : s.Housed setting file :=
    ((htrace.leads l hl).trans hcomes.leads).housed hempty
      (State.housed_start setting attributes hroot)
  obtain ⟨t, hafter, hinStep⟩ :=
    hembeds.exists_after hempty hhoused hcomes.pending hunmarked hpasted
  -- both come to the state before the include, the one with the lines pasted already
  rw [← htrace.run_eq l hl, run_eq, run_eq, State.run_of_leads hcomes.leads,
    State.run_of_after hafter, State.run_of_leads (hcomes.reframe (pasted ++ after))]
  exact hinStep.run hempty

/-- A file that opens a verbatim block and a false block, both of which end in the document that
includes it: with its lines pasted, of another file and all with the same number, the document is
reduced to the same texts. -/
theorem run_pasted_unlevel :
    let setting : Setting :=
      { files := ⟨[(["b"], .file
          [45, 45, 45, 45, 10, 105, 102, 100, 101, 102, 58, 58, 120, 91, 93])]⟩
        cwd := "/", jail := ⟨.free, "/", none⟩, rootDirectory := "/" }
    let root : String → Line := fun text => ⟨text, { file := "a", line := 1 }⟩
    let request : IncludeRequest :=
      ⟨"b", [], { file := "a", line := 1 }, ⟨"include::b[]", "b", ""⟩, []⟩
    let after := ["w", "endif::[]", ":y: 1", "----", ":z: 2"].map root
    let pasted : List Line :=
      ["----", "ifdef::x[]"].map fun text => ⟨text, { file := "c", line := 0 }⟩
    let l : Loop := .start setting "a" {} ⟨root "include::b[]" :: after⟩
    setting.registry.includeProcessors = [] ∧
      (∀ line ∈ root "include::b[]" :: after, line.origin.file = "a") ∧
      Trace setting l [l] ∧ l ∈ [l] ∧
      l.ComesTo setting [] (root "include::b[]") after l.state ∧
      l.state.Embeds setting (root "include::b[]") request "/b" "----\nifdef::x[]" ∧
      (∀ text ∈ splitLines "----\nifdef::x[]", ¬ "include::".toList <:+: text.toList) ∧
      pasted.map (·.text) = splitLines "----\nifdef::x[]" ∧
      ∃ lines c lines' c', l.run setting = .ok (lines, c) ∧
        Loop.run setting { l with buffer := ⟨pasted ++ after⟩ } = .ok (lines', c') ∧
        lines.map (·.text) = ["----", ":y: 1", "----", ":z: 2"] ∧
        c.attributes.values = [("z", "2")] ∧
        lines'.map (·.text) = lines.map (·.text) ∧ c'.attributes = c.attributes := by
  intro setting root request after pasted l
  have hroot : ∀ line ∈ root "include::b[]" :: after, line.origin.file = "a" := by decide +kernel
  have hcomes : l.ComesTo setting [] (root "include::b[]") after l.state :=
    ⟨rfl, Nat.le_refl 0, .refl _, rfl⟩
  have hembeds : l.state.Embeds setting (root "include::b[]") request "/b" "----\nifdef::x[]" :=
    { directive := by decide +kernel
      bare := rfl
      requested := by decide +kernel
      depth_le := by decide +kernel
      no_link := by decide +kernel
      permitted := by decide +kernel
      fresh := by decide +kernel
      is_file := by decide +kernel
      decoded := by decide +kernel }
  have hunmarked : ∀ text ∈ splitLines "----\nifdef::x[]",
      ¬ "include::".toList <:+: text.toList := by
    decide +kernel
  have hpasted : pasted.map (·.text) = splitLines "----\nifdef::x[]" := by decide +kernel
  have hwithin : (l.state.runWithin setting 12).map
      (fun ended => (ended.1.map (·.text), ended.2.attributes.values)) =
        some (["----", ":y: 1", "----", ":z: 2"], [("z", "2")]) := by
    decide +kernel
  obtain ⟨⟨lines, c⟩, hrun, hended⟩ := Option.map_eq_some_iff.1 hwithin
  obtain ⟨htexts, hattributes⟩ := Prod.mk.inj hended
  have hl : l.run setting = .ok (lines, c) := by
    rw [run_eq, State.run_of_runWithin 12 hrun]
  have hparallel := run_pasted rfl hroot (.single l) List.mem_cons_self hcomes hembeds hunmarked
    hpasted
  rw [hl] at hparallel
  obtain ⟨⟨lines', c'⟩, hl', hlines, hsame⟩ := hparallel.exists_ok
  exact ⟨rfl, hroot, .single l, List.mem_cons_self, hcomes, hembeds, hunmarked, hpasted, lines, c,
    lines', c', hl, hl', htexts, hattributes, hlines, hsame⟩

end Loop

end Transclude
