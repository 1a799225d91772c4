import Transclude.Proofs.Preservation
import Transclude.Proofs.Provenance

/-!
# Preserving conditionals first

A reduction that preserves conditionals expands the includes of all branches. Reducing its result,
with conditionals no longer preserved, comes to the same as reducing the document so in the first
place, and the attributes are the same, too: the includes of false blocks leave nothing behind that
the others could notice. But such an include is read, and a file that cannot be read as the document
wants may end the reduction, though no other reduction would have come to it.

## Main definitions

* `Setting.home`         : the directory in which a file reads its includes.
* `State.Housed`         : whether all directories that are known are those of their files.
* `Orderly`              : whether lines are well nested, with all conditionals in block form and
  without delimiters.
* `State.SplicesOrderly` : whether the lines are orderly that take the place of an include.

## Main statements

* `State.Leads.housed`     : a file reads its includes in one directory, whatever was included
  before.
* `State.run_of_orderly`   : without conditionals preserved, a reduction comes to what one with
  conditionals preserved keeps.
* `State.run_again`        : so does a second reduction, of the result.
* `Buffer.reduce_commutes` : preserving conditionals first makes no difference.
-/

namespace Transclude

open Transclude.Text

/-! ## Includes that are resolved alike -/

/-- What takes the place of an include does not depend on whether conditionals are preserved. -/
theorem Resolution.ofDirective_preserving (setting : Setting) (preserved : Bool)
    (directories : Table String) (a : AttributeSet) (d : Include) (origin : Origin) :
    ofDirective (setting.preserving preserved) directories a d origin =
      ofDirective setting directories a d origin := rfl

/-- The lines of an include depend on the attributes, and on the one directory in which its file
reads includes. -/
theorem Context.outcome_resolve {setting : Setting} {c c' : Context} {origin : Origin}
    (preserved preserved' : Bool) (hattributes : c'.attributes = c.attributes)
    (hbase : Resolution.baseDirectory setting c'.directories origin =
      Resolution.baseDirectory setting c.directories origin) (d : Include) :
    outcome (c'.resolve (setting.preserving preserved') d origin) =
      outcome (c.resolve (setting.preserving preserved) d origin) := by
  unfold resolve
  rw [Resolution.ofDirective_preserving, Resolution.ofDirective_preserving, hattributes]
  unfold Resolution.ofDirective
  -- a request for a file knows no directory yet, and the search for it asks for one only
  cases IncludeRequest.ofDirective c.attributes d origin with
  | error p => rfl
  | ok request =>
    dsimp only
    rw [hbase]
    cases (Search.ofRequest setting (Resolution.baseDirectory setting c.directories origin)
      request).finding with
    | error abort => rfl
    | ok finding => cases finding <;> rfl

/-- Without extensions, the lines of an include stand where the include does and the directories
stay as they are, or a file has been included that did not lead to the include. -/
theorem Context.placed_of_resolve {setting : Setting} {c after : Context} {origin : Origin}
    {d : Include} {lines : List Line} (hempty : setting.registry.includeProcessors = [])
    (h : c.resolve setting d origin = .ok (lines, after)) :
    (after.directories = c.directories ∧ ∀ l ∈ lines, l.origin = origin) ∨
      ∃ path, path ∉ origin.lineage ∧
        after.directories = c.directories.insert path (Path.directory path) ∧
        ∀ l ∈ lines, l.origin = origin ∨ ∃ n, l.origin = origin.child path n := by
  unfold resolve at h
  split at h
  · cases h
  rename_i resolution hresolution
  cases h
  rcases Resolution.eq_of_ofDirective hresolution with
    ⟨_, rfl⟩ | ⟨request, finding, hrequest, hfinding, rfl⟩
  · -- an attribute in the target has no value
    exact .inl ⟨rfl, List.forall_mem_nil _⟩
  obtain rfl : request.origin = origin := origin_of_request hrequest
  rcases Search.finding_of_ofRequest hempty hfinding with
    ⟨p, rfl⟩ | ⟨rfl, -⟩ | ⟨path, selection, rfl, hfound⟩
  · -- there may be a placeholder
    refine .inl ⟨rfl, fun l hl => ?_⟩
    simp only [Resolution.ofFinding] at hl
    split at hl
    · rw [List.mem_singleton.1 hl]
      rfl
    · cases hl
  · refine .inl ⟨rfl, fun l hl => ?_⟩
    rw [List.mem_singleton.1 hl]
    rfl
  · -- the lines of the file may stand between two entries for the level offset
    refine .inr ⟨path, hfound.fresh, rfl, fun l hl => ?_⟩
    rcases Resolution.mem_offsetLines hl with hl | ⟨hl, -⟩
    · obtain ⟨⟨n, text⟩, -, rfl⟩ := List.mem_map.1 hl
      exact .inr ⟨n, rfl⟩
    · exact .inl hl

theorem Opening.origin_of_mem_blockForm {d : Opening} {text : String} {origin : Origin} {l : Line}
    (h : l ∈ d.blockForm text origin) : l.origin = origin := by
  simp only [blockForm, List.mem_cons, List.not_mem_nil, or_false] at h
  rcases h with rfl | rfl | rfl <;> rfl

/-- The directory in which a file reads its includes, given the file of the root document. -/
def Setting.home (setting : Setting) (root file : String) : String :=
  if file = root then setting.rootDirectory else Path.directory file

namespace State

variable {setting : Setting} {root : String} {s t : State} {line : Line} {rest : List Line}

/-- Whether all directories that are known are those in which their files read includes, and the
files of all lines that are still to be read have one. All of these lines come from the root. -/
structure Housed (setting : Setting) (root : String) (s : State) : Prop where
  known : ∀ file dir, s.directories.get? file = some dir → dir = setting.home root file
  placed : ∀ line ∈ s.pending, s.directories.contains line.origin.file = true
  rooted : ∀ line ∈ s.pending, root ∈ line.origin.lineage

theorem Housed.baseDirectory (h : s.Housed setting root) (hline : line ∈ s.pending) :
    Resolution.baseDirectory setting s.directories line.origin =
      setting.home root line.origin.file := by
  obtain ⟨dir, hdir⟩ := Option.isSome_iff_exists.1 (h.placed line hline)
  rw [Resolution.baseDirectory, hdir, Option.getD_some]
  exact h.known _ _ hdir

/-- Where other lines are still to be read, of the same origins. -/
theorem Housed.of_origins (h : s.Housed setting root) (hdirectories : t.directories = s.directories)
    (horigins : ∀ l ∈ t.pending, ∃ l' ∈ s.pending, l'.origin = l.origin) :
    t.Housed setting root := by
  refine ⟨fun file dir hdir => h.known file dir (hdirectories ▸ hdir), fun l hl => ?_,
    fun l hl => ?_⟩
  · obtain ⟨l', hl', horigin⟩ := horigins l hl
    rw [hdirectories, ← horigin]
    exact h.placed l' hl'
  · obtain ⟨l', hl', horigin⟩ := horigins l hl
    rw [← horigin]
    exact h.rooted l' hl'

/-- A step reads the lines of an include, or leaves the directories as they are, and all lines still
to be read were so before, or stand where a conditional does. -/
theorem Rule.resolves_or_stays (h : Rule setting s line rest t) :
    (∃ d lines c, Directive.ofLine? (strippedEnd line.text) = some (.include d) ∧
        s.resolve setting d line.origin = .ok (lines, c) ∧
        t = (s.withContext c).await (lines ++ rest)) ∨
      t.directories = s.directories ∧ ∀ l ∈ t.pending, l ∈ rest ∨ l.origin = line.origin ∧
        ∃ d, Directive.ofLine? (strippedEnd line.text) = some (.opening d) := by
  have hrest : ∀ l ∈ rest, l ∈ rest ∨ l.origin = line.origin ∧
      ∃ d, Directive.ofLine? (strippedEnd line.text) = some (.opening d) := fun _ => .inl
  cases h with
  | inclusion d lines c directive resolved => exact .inl ⟨d, lines, c, directive, resolved, rfl⟩
  | plain => exact .inr ⟨rfl, hrest⟩
  | entry e => exact .inr ⟨s.toContext.directories_afterEntry e, hrest⟩
  | closingDropped d | closingKept d =>
    exact .inr ⟨s.toContext.directories_afterClosing d line.origin, hrest⟩
  | inlineTrue d text c directive _ _ judged =>
    obtain ⟨_, rfl, -⟩ := Context.eq_of_judge judged
    exact .inr ⟨rfl, List.forall_mem_cons.2 ⟨.inr ⟨rfl, d, directive⟩, hrest⟩⟩
  | inlineFalse d text c _ _ _ judged =>
    obtain ⟨_, rfl, -⟩ := Context.eq_of_judge judged
    exact .inr ⟨rfl, hrest⟩
  | blockTrue d c _ _ _ judged =>
    obtain ⟨_, rfl, -⟩ := Context.eq_of_judge judged
    exact .inr ⟨rfl, hrest⟩
  | blockFalse d c _ _ _ judged =>
    obtain ⟨journal, rfl, -⟩ := Context.eq_of_judge judged
    obtain ⟨-, _, heq, -⟩ :=
      skip_eq (s.withContext { s.toContext with journal := journal }) line rest d
    exact .inr ⟨by rw [heq]; rfl, fun l hl => .inl ((pending_skip_suffix _ _ _ _).subset hl)⟩
  | inlineRewritten d text directive =>
    refine .inr ⟨rfl, fun l hl => ?_⟩
    rcases List.mem_append.1 hl with hl | hl
    · exact .inr ⟨Opening.origin_of_mem_blockForm hl, d, directive⟩
    · exact .inl hl
  | inlineKept => exact .inr ⟨rfl, hrest⟩
  | blockKept d active c _ _ _ judged =>
    obtain ⟨_, rfl, -⟩ := Context.eq_of_judgeWithin judged
    exact .inr ⟨rfl, hrest⟩

/-- Where the lines of an include stand in the place of it and the directories stay. -/
theorem Housed.of_placed {lines : List Line} {c : Context} (h : s.Housed setting root)
    (hpending : s.pending = line :: rest) (hdirectories : c.directories = s.directories)
    (horigins : ∀ l ∈ lines, l.origin = line.origin) :
    ((s.withContext c).await (lines ++ rest)).Housed setting root := by
  refine h.of_origins hdirectories fun l hl => ?_
  rw [hpending]
  rcases List.mem_append.1 hl with hl | hl
  · exact ⟨line, List.mem_cons_self, (horigins l hl).symm⟩
  · exact ⟨l, List.mem_cons_of_mem _ hl, rfl⟩

/-- Where the lines of a new file are put in the place of an include, the file has its directory. -/
theorem Housed.of_included {path : String} {lines : List Line} {c : Context}
    (h : s.Housed setting root) (hpending : s.pending = line :: rest)
    (hfresh : path ∉ line.origin.lineage)
    (hdirectories : c.directories = s.directories.insert path (Path.directory path))
    (horigins : ∀ l ∈ lines, l.origin = line.origin ∨ ∃ n, l.origin = line.origin.child path n) :
    ((s.withContext c).await (lines ++ rest)).Housed setting root := by
  have hline : line ∈ s.pending := by
    rw [hpending]
    exact List.mem_cons_self
  -- the file is none of those that led to it, so it is not the root
  have hroot : path ≠ root := fun heq => hfresh (heq ▸ h.rooted line hline)
  have hplaced : ∀ file, s.directories.contains file = true →
      c.directories.contains file = true := by
    intro file hfile
    rw [hdirectories, Table.contains, Table.get?_insert]
    split
    · rfl
    · exact hfile
  have hlines : ∀ l ∈ lines ++ rest,
      c.directories.contains l.origin.file = true ∧ root ∈ l.origin.lineage := by
    intro l hl
    rcases List.mem_append.1 hl with hl | hl
    · rcases horigins l hl with horigin | ⟨n, horigin⟩
      · rw [horigin]
        exact ⟨hplaced _ (h.placed line hline), h.rooted line hline⟩
      · rw [horigin, Origin.lineage_child]
        refine ⟨?_, List.mem_append_left _ (h.rooted line hline)⟩
        show c.directories.contains path = true
        rw [hdirectories, Table.contains, Table.get?_insert, if_pos rfl]
        rfl
    · have hl : l ∈ s.pending := by
        rw [hpending]
        exact List.mem_cons_of_mem _ hl
      exact ⟨hplaced _ (h.placed l hl), h.rooted l hl⟩
  refine ⟨fun file dir hdir => ?_, fun l hl => (hlines l hl).1, fun l hl => (hlines l hl).2⟩
  have hget : c.directories.get? file = some dir := hdir
  rw [hdirectories, Table.get?_insert] at hget
  split at hget
  · rename_i hfile
    rw [← hfile, Setting.home, if_neg hroot]
    exact (Option.some.inj hget).symm
  · exact h.known file dir hget

/-- A step leaves all files that lines come from with their directories. -/
theorem After.housed (hempty : setting.registry.includeProcessors = []) (hafter : After setting t s)
    (h : s.Housed setting root) : t.Housed setting root := by
  obtain ⟨line, rest, hpending, hrule⟩ := hafter.rule
  -- only an include brings in lines of another origin
  rcases hrule.resolves_or_stays with ⟨d, lines, c, -, hresolved, rfl⟩ | ⟨hdirectories, hstays⟩
  · rcases Context.placed_of_resolve hempty hresolved with
      ⟨hdirectories, horigins⟩ | ⟨path, hfresh, hdirectories, horigins⟩
    · exact h.of_placed hpending hdirectories horigins
    · exact h.of_included hpending hfresh hdirectories horigins
  · refine h.of_origins hdirectories fun l hl => ?_
    rw [hpending]
    rcases hstays l hl with hl | ⟨horigin, -⟩
    · exact ⟨l, List.mem_cons_of_mem _ hl, rfl⟩
    · exact ⟨line, List.mem_cons_self, horigin.symm⟩

theorem Leads.housed (hempty : setting.registry.includeProcessors = []) (h : Leads setting s t)
    (hs : s.Housed setting root) : t.Housed setting root :=
  h.preserves hs fun _ _ hafter hs => hafter.housed hempty hs

end State

/-! ## Orderly lines -/

/-- Whether a line is no delimiter of a verbatim block. -/
def Line.Undelimited (line : Line) : Prop := Verbatim.delimiter? (strippedEnd line.text) = none

instance (line : Line) : Decidable line.Undelimited := inferInstanceAs (Decidable (_ = _))

/-- Whether lines are well nested, with all conditionals in block form and without delimiters. -/
structure Orderly (lines : List Line) : Prop where
  nested : WellNested lines
  block : ∀ line ∈ lines, line.BlockForm
  undelimited : ∀ line ∈ lines, line.Undelimited

instance (lines : List Line) : Decidable (Orderly lines) :=
  decidable_of_iff (WellNested lines ∧ (∀ line ∈ lines, line.BlockForm) ∧
    ∀ line ∈ lines, line.Undelimited)
    ⟨fun ⟨nested, block, undelimited⟩ => ⟨nested, block, undelimited⟩,
      fun h => ⟨h.nested, h.block, h.undelimited⟩⟩

/-- A line that is no delimiter leaves the verbatim block as it is. -/
theorem Hit.verbatim_of_undelimited {line : Line} (h : line.Undelimited) (v : Verbatim) :
    (ofLine? v line.text).1 = v := by
  have hadvance : v.advance (strippedEnd line.text) = (v, false) := by
    rw [Verbatim.advance, h]
  unfold ofLine?
  dsimp only
  split
  · rfl
  · rw [hadvance]
    cases v <;> rfl

theorem Scan.verbatim_of_undelimited {lines : List Line} (h : ∀ line ∈ lines, line.Undelimited)
    (v : Verbatim) : (all v lines).1 = v := by
  induction lines with
  | nil => rfl
  | cons line rest ih =>
    obtain ⟨hline, hrest⟩ := List.forall_mem_cons.1 h
    rw [verbatim_cons, Hit.verbatim_of_undelimited hline, ih hrest]

theorem Orderly.of_texts {lines more : List Line} (h : Orderly lines)
    (htexts : more.map (·.text) = lines.map (·.text)) : Orderly more := by
  have hsame : ∀ l ∈ more, ∃ l' ∈ lines, l'.text = l.text := by
    intro l hl
    have htext : l.text ∈ lines.map (·.text) := by
      rw [← htexts]
      exact List.mem_map_of_mem hl
    exact List.mem_map.1 htext
  refine ⟨Nesting.wellNested_of_texts htexts h.nested, fun l hl => ?_, fun l hl => ?_⟩
  · obtain ⟨l', hl', htext⟩ := hsame l hl
    have hblock := h.block l' hl'
    rwa [Line.BlockForm, htext] at hblock
  · obtain ⟨l', hl', htext⟩ := hsame l hl
    have hundelimited := h.undelimited l' hl'
    rwa [Line.Undelimited, htext] at hundelimited

/-- Orderly lines may take the place of an include. -/
theorem Orderly.splice {before new rest : List Line} {line : Line} {d : Include}
    (hd : Directive.ofLine? (strippedEnd line.text) = some (.include d)) (hnew : Orderly new)
    (h : Orderly (before ++ line :: rest)) : Orderly (before ++ (new ++ rest)) := by
  have hmem : ∀ l ∈ before ++ (new ++ rest), l ∈ new ∨ l ∈ before ++ line :: rest := by
    intro l hl
    rcases List.mem_append.1 hl with hl | hl
    · exact .inr (List.mem_append_left _ hl)
    · rcases List.mem_append.1 hl with hl | hl
      · exact .inl hl
      · exact .inr (List.mem_append_right _ (List.mem_cons_of_mem _ hl))
  refine ⟨Nesting.wellNested_splice hd hnew.nested h.nested, fun l hl => ?_, fun l hl => ?_⟩
  · exact (hmem l hl).elim (hnew.block l) (h.block l)
  · exact (hmem l hl).elim (hnew.undelimited l) (h.undelimited l)

namespace State

variable {setting again : Setting} {s t u : State} {line : Line} {rest : List Line}

/-- Where no line is a delimiter, every block that is left out leaves the verbatim block as it is.
-/
theorem omitsLevel_of_undelimited (h : ∀ line ∈ s.pending, line.Undelimited) :
    s.OmitsLevel setting := by
  intro line rest d c length hpending _ _ _ _
  refine Scan.verbatim_of_undelimited (fun l hl => h l ?_) _
  rw [hpending]
  exact List.mem_cons_of_mem _ (List.mem_of_mem_take hl)

/-- Whether the lines are orderly that take the place of an include that is next. -/
def SplicesOrderly (setting : Setting) (p : State) : Prop :=
  ∀ line rest d lines c, p.pending = line :: rest →
    Directive.ofLine? (strippedEnd line.text) = some (.include d) →
      p.resolve setting d line.origin = .ok (lines, c) → Orderly lines

instance (setting : Setting) (p : State) : Decidable (p.SplicesOrderly setting) :=
  decidable_of_iff (∀ line ∈ p.pending.head?, ∀ d ∈ line.include?,
      ∀ lines ∈ (p.resolve setting d line.origin).toOption.map Prod.fst, Orderly lines) <| by
    constructor
    · intro h line rest d lines c hpending hd hresolved
      rw [hpending] at h
      exact h line rfl d (Line.mem_include?.2 hd) lines (map_fst_toOption.2 ⟨c, hresolved⟩)
    · intro h line hline d hd lines hresolved
      obtain ⟨rest, hpending⟩ := List.head?_eq_some_iff.1 hline
      obtain ⟨c, hresolved⟩ := map_fst_toOption.1 hresolved
      exact h line rest d lines c hpending (Line.mem_include?.1 hd) hresolved

/-- The lines emitted and those still to be read stay orderly. -/
theorem Leads.orderly (hpreserved : setting.options.preserveConditionals.meaning = true)
    (hspliced : ∀ p, Leads setting s p → p.SplicesOrderly setting)
    (hs : Orderly (s.emitted.toList ++ s.pending)) (h : Leads setting s t) :
    Orderly (t.emitted.toList ++ t.pending) := by
  -- what takes the place of an include is told of states that are reached, so that is kept, too
  refine (h.preserves (P := fun u => Leads setting s u ∧ Orderly (u.emitted.toList ++ u.pending))
    ⟨.refl s, hs⟩ fun u v hafter hu => ?_).2
  obtain ⟨hleads, horderly⟩ := hu
  refine ⟨hleads.trans hafter.leads, ?_⟩
  obtain ⟨line, rest, hpending, -⟩ := hafter.rule
  rw [hpending] at horderly
  have hblock : line.BlockForm := horderly.block line (by simp)
  rcases resolves_or_emits hpreserved hafter hpending hblock with
    ⟨d, lines, c, hd, hresolved, rfl⟩ | ⟨-, hv, hemitted⟩
  · exact .splice hd (hspliced u hleads line rest d lines c hpending hd hresolved) horderly
  · rw [hv, hemitted, Array.toList_push, List.append_assoc]
    exact horderly

/-! ## What is kept of a result -/

/-- Of a line of the same text the same is kept, where entries count in both reductions or in
neither. -/
theorem keeps_texts {line' : Line} (hactive : u.active = s.active)
    (htext : line'.text = line.text) :
    (u.keeps line').map (·.text) = (s.keeps line).map (·.text) := by
  unfold keeps
  rw [hactive, htext]
  split
  · exact congrArg ([·]) htext
  · rfl

/-- Of a line that is not emitted nothing is kept. -/
theorem keeps_of_silent (hafter : After setting t s) (hpending : s.pending = line :: rest)
    (hemitted : t.emitted = s.emitted) : s.keeps line = [] := by
  refine if_neg fun hkept => ?_
  -- a line that is kept is no directive, and such a line is emitted
  obtain ⟨journal, hother⟩ := after_of_other setting hpending hkept.2
  obtain rfl := hafter.unique hother
  have hsize : (s.emitted.push line).size = s.emitted.size := congrArg Array.size hemitted
  rw [Array.size_push] at hsize
  omega

/-- From the texts that a reduction with conditionals preserved comes to, a second one keeps the
texts that are kept of the document. -/
theorem kept_repeats {lines : List Line} {c : Context}
    (hpreserved : setting.options.preserveConditionals.meaning = true)
    (hoptions : again.options = setting.options) (hevaluator : again.evaluator = setting.evaluator)
    (h : s.run setting = .ok (lines, c)) (hrepeats : Context.Repeats true s.toContext u.toContext)
    (htexts : (s.emitted.toList ++ u.pending).map (·.text) = lines.map (·.text)) :
    (u.kept again).map (·.text) = (s.kept setting).map (·.text) := by
  -- by induction on the first run, of which the second takes the steps that emit a line
  fun_induction State.run setting s generalizing u with
  | case1 s hend =>
    cases h
    have hnone : u.pending = [] := by
      have hlength := congrArg List.length htexts
      simp only [List.length_map, List.length_append] at hlength
      exact List.length_eq_zero_iff.1 (by omega)
    rw [kept_of_end hend, kept_of_end (step_of_nil hnone)]
  | case2 s t hafter ih =>
    obtain ⟨line, rest, hpending, honLine⟩ := onLine_of_step hafter
    have hecho := (rule_of_onLine honLine).repeats hoptions hevaluator (hpreserved ▸ hrepeats)
    rw [kept_of_after hafter hpending]
    cases hecho with
    | silent emitted repeats =>
      rw [keeps_of_silent hafter hpending emitted]
      exact ih h (hpreserved ▸ repeats) (by rw [emitted, htexts])
    | emits emitted final follows =>
      -- the next text of the second run is the one that was emitted just now
      obtain ⟨more, rfl⟩ := emitted_of_run h
      rw [emitted, Array.toList_push, List.append_assoc, List.map_append, List.map_append,
        List.append_cancel_left_eq, List.singleton_append, List.map_cons] at htexts
      obtain ⟨line', rest', hpending', htext, hrest⟩ := List.map_eq_cons_iff.1 htexts
      obtain ⟨v, hv, hvemitted, hvpending, hvrepeats⟩ := follows line' rest' htext
      have hafter' : After again v u := by
        rw [After, step_of_cons hpending', hv]
        rfl
      rw [kept_of_after hafter' hpending', List.map_append, List.map_append,
        keeps_texts hrepeats.active_eq htext]
      refine congrArg _ (ih h (hpreserved ▸ hvrepeats) ?_)
      rw [emitted, hvpending]
      simp [hrest]
  | case3 s i hstep => cases h

/-! ## Reductions of orderly documents -/

/-- At the start the directory of the root is known, from which all lines come. -/
theorem housed_start (setting : Setting) {file : String} (attributes : AttributeSet) {b : Buffer}
    (hroot : ∀ line ∈ b.lines, line.origin.file = file) :
    (Loop.start setting file attributes b).state.Housed setting file := by
  refine ⟨fun f dir hdir => ?_, fun l hl => ?_, fun l hl => ?_⟩
  · have hget : Table.get? [(file, setting.rootDirectory)] f = some dir := hdir
    simp only [Table.get?] at hget
    split at hget
    · rename_i hfile
      rw [Setting.home, if_pos hfile.symm]
      exact (Option.some.inj hget).symm
    · cases hget
  · show Table.contains [(file, setting.rootDirectory)] l.origin.file = true
    rw [hroot l hl, Table.contains, Table.get?, if_pos rfl]
    rfl
  · rw [Origin.lineage, hroot l hl]
    exact List.mem_append_right _ (List.mem_singleton_self _)

/-- Two reductions of an orderly document end alike if the includes that both of them read are read
in the same directories. -/
theorem run_of_orderly (setting : Setting) (file : String) (attributes : AttributeSet) {b : Buffer}
    (horderly : Orderly b.lines)
    (hspliced : ∀ p, Leads (setting.preserving true)
      (Loop.start (setting.preserving true) file attributes b).state p →
        p.SplicesOrderly (setting.preserving true))
    (hbase : ∀ p n line d,
      Leads (setting.preserving true)
        (Loop.start (setting.preserving true) file attributes b).state p →
      Leads (setting.preserving false)
        (Loop.start (setting.preserving false) file attributes b).state n →
      line ∈ p.pending → line ∈ n.pending →
      Directive.ofLine? (strippedEnd line.text) = some (.include d) →
        Resolution.baseDirectory setting n.directories line.origin =
          Resolution.baseDirectory setting p.directories line.origin) :
    (∀ lines c, (Loop.start (setting.preserving true) file attributes b).state.run
        (setting.preserving true) = .ok (lines, c) →
      ∃ c', (Loop.start (setting.preserving false) file attributes b).state.run
          (setting.preserving false) =
            .ok ((Loop.start (setting.preserving true) file attributes b).state.kept
              (setting.preserving true), c') ∧
        c'.attributes = c.attributes) ∧
    ∀ i, (Loop.start (setting.preserving true) file attributes b).state.run
        (setting.preserving true) = .error i →
      (∃ i', (Loop.start (setting.preserving false) file attributes b).state.run
          (setting.preserving false) = .error i' ∧ i'.abort = i.abort) ∨
        ∃ q, Leads (setting.preserving true)
            (Loop.start (setting.preserving true) file attributes b).state q ∧
          q.InterruptedWithin (setting.preserving true) i := by
  let p₀ := (Loop.start (setting.preserving true) file attributes b).state
  let n₀ := (Loop.start (setting.preserving false) file attributes b).state
  have hstart : p₀.Mirrors n₀ [] [] := mirrors_start _ _ file file attributes horderly.nested
  have hpreserved := setting.meaning_preserving true
  have hattuned : ∀ {p n : State} {inner region line rest},
      Leads (setting.preserving true) p₀ p ∧ Leads (setting.preserving false) n₀ n →
        p.Mirrors n inner region → p.pending = line :: rest → Attuned setting p n line rest := by
    rintro p n inner region line rest ⟨hp, hn⟩ hmirrors hpending
    have hline : line ∈ p.pending := by
      rw [hpending]
      exact List.mem_cons_self
    have hlines := hp.orderly hpreserved hspliced horderly
    have hmem : ∀ l ∈ p.pending, l ∈ p.emitted.toList ++ p.pending :=
      fun l hl => List.mem_append_right _ hl
    refine ⟨hlines.block line (hmem line hline), fun d lines c hd hresolved => ?_,
      fun hnext d hd => ?_, omitsLevel_of_undelimited fun l hl => ?_⟩
    · have hnew := hspliced p hp line rest d lines c hpending hd hresolved
      exact ⟨hnew.nested, Scan.verbatim_of_undelimited hnew.undelimited⟩
    · refine Context.outcome_resolve true false hmirrors.attributes ?_ d
      exact hbase p n line d hp hn hline (by rw [hnext]; exact List.mem_cons_self) hd
    · -- what the one reduction is still to read, the other is, too
      refine hlines.undelimited l (hmem l ?_)
      rw [hmirrors.pending]
      exact List.mem_append_right _ hl
  exact hstart.run setting hattuned
    (fun h hafter hleads => ⟨h.1.trans hafter.leads, h.2.trans hleads⟩) ⟨.refl p₀, .refl n₀⟩

/-- Two reductions of a document read the includes of a line in the same directory. -/
theorem baseDirectory_of_leads {file : String} {attributes : AttributeSet} {b : Buffer}
    (preserved preserved' : Bool) {p n : State} (hempty : setting.registry.includeProcessors = [])
    (hroot : ∀ line ∈ b.lines, line.origin.file = file)
    (hp : Leads (setting.preserving preserved)
      (Loop.start (setting.preserving preserved) file attributes b).state p)
    (hn : Leads (setting.preserving preserved')
      (Loop.start (setting.preserving preserved') file attributes b).state n)
    (hline : line ∈ p.pending) (hline' : line ∈ n.pending) :
    Resolution.baseDirectory setting n.directories line.origin =
      Resolution.baseDirectory setting p.directories line.origin := by
  have hp : p.Housed (setting.preserving preserved) file :=
    hp.housed hempty (housed_start _ attributes hroot)
  have hn : n.Housed (setting.preserving preserved') file :=
    hn.housed hempty (housed_start _ attributes hroot)
  exact (hn.baseDirectory hline').trans (hp.baseDirectory hline).symm

/-- A second reduction, of the texts that the first one comes to with conditionals preserved, emits
the texts that are kept of the document. -/
theorem run_again {file file' : String} {attributes : AttributeSet} {b b' : Buffer}
    {lines : List Line} {c : Context} (horderly : Orderly b.lines)
    (hspliced : ∀ p, Leads (setting.preserving true)
      (Loop.start (setting.preserving true) file attributes b).state p →
        p.SplicesOrderly (setting.preserving true))
    (hrun : (Loop.start (setting.preserving true) file attributes b).state.run
      (setting.preserving true) = .ok (lines, c))
    (hoptions : again.options = setting.options) (hevaluator : again.evaluator = setting.evaluator)
    (htexts : b'.lines.map (·.text) = lines.map (·.text)) :
    ∃ lines' c', (Loop.start (again.preserving false) file' attributes b').state.run
        (again.preserving false) = .ok (lines', c') ∧
      lines'.map (·.text) =
        ((Loop.start (setting.preserving true) file attributes b).state.kept
          (setting.preserving true)).map (·.text) ∧
      c'.attributes = c.attributes := by
  let first := (Loop.start (setting.preserving true) file attributes b).state
  let second := (Loop.start (again.preserving true) file' attributes b').state
  have hpreserved := setting.meaning_preserving true
  have hoptions : (again.preserving true).options = (setting.preserving true).options := by
    simp [Setting.preserving, hoptions]
  have hrepeats : Context.Repeats true first.toContext second.toContext :=
    Context.repeats_start _ _ _ _ _ _
  -- the lines are orderly, and no include is among them
  have hlines : Orderly lines := by
    have hended := (leads_of_run hrun).orderly hpreserved hspliced horderly
    rwa [List.append_nil] at hended
  obtain ⟨hfinal, c₁, hrun', hc₁⟩ := run_repeats (u := second) hrun hoptions hevaluator
    (List.forall_mem_nil _) (by rw [hpreserved]; exact hrepeats) htexts
  have horderly' : Orderly b'.lines := hlines.of_texts htexts
  have hfree : ∀ line ∈ b'.lines, line.IncludeFree ∧ line.BlockForm := by
    intro line hline
    have htext : line.text ∈ lines.map (·.text) := by
      rw [← htexts]
      exact List.mem_map_of_mem hline
    obtain ⟨line', hline', htext⟩ := List.mem_map.1 htext
    refine ⟨fun d hd => ?_, horderly'.block line hline⟩
    rw [← htext] at hd
    exact (hfinal line' hline').1 d hd
  have hnone : ∀ {p : State} {line d}, Leads (again.preserving true) second p → line ∈ p.pending →
      Directive.ofLine? (strippedEnd line.text) ≠ some (.include d) :=
    fun hp hline => (hp.includeFree_blockForm (again.meaning_preserving true) hfree _ hline).1 _
  obtain ⟨hok, -⟩ := run_of_orderly again file' attributes horderly'
    (fun p hp line rest d lines c hpending hd _ =>
      absurd hd (hnone hp (by rw [hpending]; exact List.mem_cons_self)))
    (fun p n line d hp _ hline _ hd => absurd hd (hnone hp hline))
  obtain ⟨c', hnormal, hattributes⟩ := hok _ c₁ hrun'
  refine ⟨_, c', hnormal, ?_, hattributes.trans hc₁.attributes⟩
  exact kept_repeats (u := second) hpreserved hoptions hevaluator hrun hrepeats htexts

end State

/-- In a document that is orderly, and of which all lines come from the root, reducing with
conditionals preserved and then without comes to the texts and the attributes that reducing without
them preserved comes to in the first place. Only an include that no other reduction comes to, as it
stands in a false block, may interrupt the one alone. -/
theorem Buffer.reduce_commutes {setting : Setting} {file : String} {attributes : AttributeSet}
    {b : Buffer} (hempty : setting.registry.includeProcessors = [])
    (hroot : ∀ line ∈ b.lines, line.origin.file = file) (horderly : Orderly b.lines)
    (hspliced : ∀ p, State.Leads (setting.preserving true)
      (Loop.start (setting.preserving true) file attributes b).state p →
        p.SplicesOrderly (setting.preserving true)) :
    (∀ r journal, b.reduce (setting.preserving true) file attributes = .ok (r, journal) →
      ∃ r' journal', b.reduce (setting.preserving false) file attributes = .ok (r', journal') ∧
        r'.attributes = r.attributes ∧
        ∀ (again : Setting) (file' : String) (b' : Buffer), again.options = setting.options →
          again.evaluator = setting.evaluator →
          b'.lines.map (·.text) = r.lines.map (·.text) →
            ∃ r'' journal'',
              b'.reduce (again.preserving false) file' attributes = .ok (r'', journal'') ∧
              r''.lines.map (·.text) = r'.lines.map (·.text) ∧ r''.attributes = r'.attributes) ∧
    ∀ i, b.reduce (setting.preserving true) file attributes = .error i →
      (∃ i', b.reduce (setting.preserving false) file attributes = .error i' ∧ i'.abort = i.abort) ∨
        ∃ q, State.Leads (setting.preserving true)
            (Loop.start (setting.preserving true) file attributes b).state q ∧
          q.InterruptedWithin (setting.preserving true) i := by
  obtain ⟨hok, herror⟩ := State.run_of_orderly setting file attributes horderly hspliced
    (fun p n line d hp hn hline hline' _ =>
      State.baseDirectory_of_leads true false hempty hroot hp hn hline hline')
  refine ⟨fun r journal hreduce => ?_, fun i hreduce => ?_⟩
  · obtain ⟨⟨lines, c⟩, hrun, hresult⟩ := eq_ok_of_map hreduce
    cases hresult
    rw [Loop.run_eq] at hrun
    obtain ⟨c', hnormal, hattributes⟩ := hok lines c hrun
    refine ⟨_, _, reduce_of_run hnormal, ?_, ?_⟩
    · show c'.finish.attributes.values = c.finish.attributes.values
      rw [Context.attributes_finish, Context.attributes_finish, hattributes]
    · intro again file' b' hoptions hevaluator htexts
      obtain ⟨lines'', c'', hagain, hlines, hattributes'⟩ := State.run_again horderly hspliced hrun
        hoptions hevaluator htexts
      refine ⟨_, _, reduce_of_run hagain, hlines, ?_⟩
      show c''.finish.attributes.values = c'.finish.attributes.values
      rw [Context.attributes_finish, Context.attributes_finish, hattributes', hattributes]
  · have hrun := eq_error_of_map hreduce
    rw [Loop.run_eq] at hrun
    rcases herror i hrun with ⟨i', hnormal, habort⟩ | hwithin
    · exact .inl ⟨i', reduce_of_run_error hnormal, habort⟩
    · exact .inr hwithin

/-- A document that includes a file with an entry, first in a false block and then outside of it:
the entry is applied once, and is all that is left in the end, whichever way it is reduced. -/
theorem Buffer.reduce_commutes_include :
    let setting : Setting :=
      { files := ⟨[(["b"], .file [58, 121, 58, 32, 49])]⟩, cwd := "/", jail := ⟨.free, "/", none⟩
        rootDirectory := "/" }
    let buffer : List String → Buffer := fun texts => ⟨texts.map fun text =>
      ⟨text, { file := "a", line := 1 }⟩⟩
    let b := buffer ["ifdef::x[]", "include::b[]", "endif::[]", "include::b[]"]
    let b' := buffer ["ifdef::x[]", ":y: 1", "endif::[]", ":y: 1"]
    setting.registry.includeProcessors = [] ∧ (∀ line ∈ b.lines, line.origin.file = "a") ∧
      Orderly b.lines ∧
      (∀ p, State.Leads (setting.preserving true)
        (Loop.start (setting.preserving true) "a" {} b).state p →
          p.SplicesOrderly (setting.preserving true)) ∧
      ∃ r journal r' journal' r'' journal'',
        b.reduce (setting.preserving true) "a" {} = .ok (r, journal) ∧
        b.reduce (setting.preserving false) "a" {} = .ok (r', journal') ∧
        b'.reduce (setting.preserving false) "a" {} = .ok (r'', journal'') ∧
        r.lines.map (·.text) = b'.lines.map (·.text) ∧ r.attributes = [("y", "1")] ∧
        r'.attributes = [("y", "1")] ∧ r''.lines.map (·.text) = r'.lines.map (·.text) := by
  intro setting buffer b b'
  have hroot : ∀ line ∈ b.lines, line.origin.file = "a" := by decide +kernel
  have horderly : Orderly b.lines := by decide +kernel
  have hspliced : ∀ p, State.Leads (setting.preserving true)
      (Loop.start (setting.preserving true) "a" {} b).state p →
        p.SplicesOrderly (setting.preserving true) := by
    intro p hp
    refine State.Leads.of_allWithin 7 ?_ hp
    decide +kernel
  have hwithin : ((Loop.start (setting.preserving true) "a" {} b).state.runWithin
      (setting.preserving true) 7).map
        (fun ended => (ended.1.map (·.text), ended.2.attributes.values)) =
          some (b'.lines.map (·.text), [("y", "1")]) := by
    decide +kernel
  obtain ⟨⟨lines, c⟩, hrun, hended⟩ := Option.map_eq_some_iff.1 hwithin
  obtain ⟨htexts, hattributes⟩ := Prod.mk.inj hended
  have hattributes : c.finish.attributes.values = [("y", "1")] := by
    rw [Context.attributes_finish, hattributes]
  have hpreserved := Buffer.reduce_of_runWithin 7 hrun
  obtain ⟨hok, -⟩ := Buffer.reduce_commutes rfl hroot horderly hspliced
  obtain ⟨r', journal', hnormal, hsame, hagain⟩ := hok _ _ hpreserved
  obtain ⟨r'', journal'', hreduce, hlines, -⟩ := hagain setting "a" b' rfl rfl htexts.symm
  exact ⟨rfl, hroot, horderly, hspliced, _, _, r', journal', r'', journal'', hpreserved, hnormal,
    hreduce, htexts, hattributes, hsame.trans hattributes, hlines⟩

/-- A document of which a false block includes a file that cannot be decoded as it asks for:
reducing it with conditionals preserved is interrupted, and reducing it without is not. -/
theorem Buffer.reduce_commutes_undecoded :
    let setting : Setting :=
      { files := ⟨[(["b"], .file [121, 122])]⟩, cwd := "/", jail := ⟨.free, "/", none⟩
        rootDirectory := "/" }
    let b : Buffer := ⟨["ifdef::x[]", "include::b[encoding=utf-16]", "endif::[]"].map fun text =>
      ⟨text, { file := "a", line := 1 }⟩⟩
    setting.registry.includeProcessors = [] ∧ (∀ line ∈ b.lines, line.origin.file = "a") ∧
      Orderly b.lines ∧
      (∀ p, State.Leads (setting.preserving true)
        (Loop.start (setting.preserving true) "a" {} b).state p →
          p.SplicesOrderly (setting.preserving true)) ∧
      (∃ i, b.reduce (setting.preserving true) "a" {} = .error i) ∧
      (outcome (b.reduce (setting.preserving false) "a" {})).map (·.attributes) = .ok [] := by
  intro setting b
  have hroot : ∀ line ∈ b.lines, line.origin.file = "a" := by decide +kernel
  have horderly : Orderly b.lines := by decide +kernel
  have hspliced : ∀ p, State.Leads (setting.preserving true)
      (Loop.start (setting.preserving true) "a" {} b).state p →
        p.SplicesOrderly (setting.preserving true) := by
    intro p hp
    refine State.Leads.of_allWithin 3 ?_ hp
    decide +kernel
  let line : String → Line := fun text => ⟨text, { file := "a", line := 1 }⟩
  let start : Context := .start (setting.preserving true) "a" {}
  let within : Context :=
    { start with frames := [⟨"ifdef::x[]", "x", false, { file := "a", line := 1 }⟩] }
  let i : Interruption := ⟨.encoding (.noByteOrder "UTF-16"), #[.consulted "/b"]⟩
  have hopening : State.After (setting.preserving true) ⟨within, #[line "ifdef::x[]"], b.lines.tail⟩
      (Loop.start (setting.preserving true) "a" {} b).state := by
    refine State.after_of_toOption ?_
    decide +kernel
  have hinclude : State.step (setting.preserving true)
      ⟨within, #[line "ifdef::x[]"], b.lines.tail⟩ = .error i := by
    decide +kernel
  have hpreserved : b.reduce (setting.preserving true) "a" {} = .error i := by
    refine Buffer.reduce_of_run_error ?_
    rw [State.run_of_after hopening, State.run_of_error hinclude]
  have hnormal : b.reduce (setting.preserving false) "a" {} =
      .ok (Result.ofRun (setting.preserving false) "a" [] start) := by
    refine Buffer.reduce_of_runWithin 2 ?_
    decide +kernel
  refine ⟨rfl, hroot, horderly, hspliced, ⟨i, hpreserved⟩, ?_⟩
  rw [hnormal]
  rfl

end Transclude
