import Transclude.Proofs.Endings
import Transclude.Proofs.Pasting

/-!
# The directories of files

A file reads its includes relative to its own directory, and the root document relative to the
directory that the reduction is given. One table keeps these directories for a whole reduction,
under the names of the files and under the targets that extensions supply. Whatever the names are
and in whichever order things are included, a line of a file is in the directory of the file.

Lines that an extension supplies are in the directory of the line that includes them, if their
target is new to the table. An entry that is there already is not replaced: lines supplied for the
same target again, for a file elsewhere, are in the directory of the first of these files.

## Main definitions

* `Run.ReadFrom` : whether a line was read from a file before a reduction comes to a state.
* `State.Within` : whether all lines still to be read that may include something are led to by a
  file.

## Main statements

* `Context.known_of_resolve`     : what an include does to a directory that is known.
* `State.Leads.known`            : what a run does to one.
* `Run.baseDirectory_of_reaches` : lines of files, and of the root, are in the right directories.
* `Run.baseDirectory_supplied`   : supplied lines are in the directory known for their target, or
  else in that of the include.
-/

namespace Transclude

open Transclude.Text

/-! ## One include -/

namespace Resolution

variable {s : Setting} {directories : Table String} {a : AttributeSet} {request : IncludeRequest}
  {base file dir : String} {finding : Finding}

/-- A directory that is known stays, or it is that of a file that is read, which did not lead to the
include. -/
theorem known_of_finds (hfinds : Search.Finds s base request finding)
    (hknown : directories.get? file = some dir) :
    (ofFinding s directories a request finding).directories.get? file = some dir ∨
      file ∉ request.origin.lineage ∧
        (ofFinding s directories a request finding).directories.get? file =
          some (Path.directory file) := by
  cases finding with
  | link | problem p => exact .inl hknown
  | supplied name texts =>
    refine .inl ?_
    dsimp only [ofFinding]
    split
    · exact hknown
    · rename_i hnew
      -- the target has no directory yet, so it is not this file
      have hne : request.target ≠ file := by
        rintro rfl
        exact hnew (by rw [Table.contains, hknown]; rfl)
      rw [Table.get?_insert, if_neg hne]
      exact hknown
  | file path selection =>
    cases hfinds with
    | file opened =>
      dsimp only [ofFinding]
      rw [Table.get?_insert]
      split
      · -- the file itself is read
        rename_i hpath
        subst hpath
        exact .inr ⟨opened.fresh, rfl⟩
      · exact .inl hknown

/-- Afterwards the target of lines that are supplied has the directory that it had, or else that of
the include. -/
theorem target_of_supplied (a : AttributeSet) (name : String) (texts : List String) :
    (ofFinding s directories a request (.supplied name texts)).directories.get? request.target =
      some ((directories.get? request.target).getD
        (baseDirectory s directories request.origin)) := by
  dsimp only [ofFinding]
  cases hknown : directories.get? request.target with
  | some dir =>
    rw [if_pos (by rw [Table.contains, hknown]; rfl), hknown]
    rfl
  | none =>
    rw [if_neg (by rw [Table.contains, hknown]; exact Bool.false_ne_true), Table.get?_insert,
      if_pos rfl]
    rfl

/-- What takes the place of an include stands where it does, or a line further in. -/
theorem lineage_subset_of_mem {l : Line}
    (hl : l ∈ (ofFinding s directories a request finding).lines) :
    request.origin.lineage ⊆ l.origin.lineage := by
  have hchild : ∀ (file : String) (n : Int),
      request.origin.lineage ⊆ (request.origin.child file n).lineage := by
    intro file n
    rw [Origin.lineage_child]
    exact List.subset_append_left _ _
  cases finding with
  | link =>
    rw [List.mem_singleton.1 hl]
    exact List.Subset.refl _
  | problem p =>
    simp only [ofFinding] at hl
    split at hl
    · rw [List.mem_singleton.1 hl]
      exact List.Subset.refl _
    · cases hl
  | supplied name texts =>
    rcases mem_offsetLines hl with hl | ⟨horigin, -⟩
    · obtain ⟨_, -, rfl⟩ := List.mem_map.1 hl
      exact hchild _ _
    · -- an entry that sets the level offset stands at the include
      rw [horigin]
      exact List.Subset.refl _
  | file path selection =>
    rcases mem_offsetLines hl with hl | ⟨horigin, -⟩
    · obtain ⟨_, -, rfl⟩ := List.mem_map.1 hl
      exact hchild _ _
    · rw [horigin]
      exact List.Subset.refl _

end Resolution

namespace Context

variable {setting : Setting} {c after : Context} {origin : Origin} {d : Include}
  {lines : List Line} {file dir : String}

/-- An include keeps a directory that is known, unless it reads the file, which did not lead to it
and has its own directory then. -/
theorem known_of_resolve (h : c.resolve setting d origin = .ok (lines, after))
    (hknown : c.directories.get? file = some dir) :
    after.directories.get? file = some dir ∨
      file ∉ origin.lineage ∧ after.directories.get? file = some (Path.directory file) := by
  unfold resolve at h
  split at h
  · cases h
  rename_i resolution hresolution
  cases h
  rcases Resolution.eq_of_ofDirective hresolution with
    ⟨_, rfl⟩ | ⟨request, finding, hrequest, hfinding, rfl⟩
  · exact .inl hknown
  · obtain rfl : request.origin = origin := origin_of_request hrequest
    exact Resolution.known_of_finds (Search.finds_of_finding hfinding) hknown

/-- All that led to an include leads to the lines of it. -/
theorem lineage_subset_of_resolve (h : c.resolve setting d origin = .ok (lines, after)) :
    ∀ l ∈ lines, origin.lineage ⊆ l.origin.lineage := by
  intro l hl
  unfold resolve at h
  split at h
  · cases h
  rename_i resolution hresolution
  cases h
  rcases Resolution.eq_of_ofDirective hresolution with
    ⟨_, rfl⟩ | ⟨request, finding, hrequest, -, rfl⟩
  · cases hl
  · obtain rfl : request.origin = origin := origin_of_request hrequest
    exact Resolution.lineage_subset_of_mem hl

end Context

namespace State

variable {setting : Setting} {s t : State} {file dir : String}

/-! ## Whole runs -/

/-- Whether a file leads to all lines still to be read, directives that is: other lines may be of
any origin. -/
def Within (s : State) (file : String) : Prop :=
  ∀ line ∈ s.pending, file ∈ line.origin.lineage ∨ Directive.ofLine? (strippedEnd line.text) = none

/-- What a file leads to stays so, as no line comes from anywhere else. -/
theorem After.within (hafter : After setting t s) (h : s.Within file) : t.Within file := by
  obtain ⟨line, rest, hpending, hrule⟩ := hafter.rule
  rw [Within, hpending] at h
  obtain ⟨hline, hrest⟩ := List.forall_mem_cons.1 h
  rcases hrule.resolves_or_stays with ⟨d, lines, c, hd, hresolved, rfl⟩ | ⟨-, hstays⟩
  · have hled : file ∈ line.origin.lineage := hline.resolve_right (by rw [hd]; exact nofun)
    intro l hl
    rcases List.mem_append.1 hl with hl | hl
    · exact .inl (Context.lineage_subset_of_resolve hresolved l hl hled)
    · exact hrest l hl
  · intro l hl
    rcases hstays l hl with hl | ⟨horigin, d, hd⟩
    · exact hrest l hl
    · rw [horigin]
      exact .inl (hline.resolve_right (by rw [hd]; exact nofun))

/-- A step keeps a directory that is known, if it is that of the file itself, or if the file leads
to all directives: it is not read again then. -/
theorem After.known (hafter : After setting t s) (h : dir = Path.directory file ∨ s.Within file)
    (hknown : s.directories.get? file = some dir) : t.directories.get? file = some dir := by
  obtain ⟨line, rest, hpending, hrule⟩ := hafter.rule
  rcases hrule.resolves_or_stays with ⟨d, lines, c, hd, hresolved, rfl⟩ | ⟨hdirectories, -⟩
  · rcases Context.known_of_resolve hresolved hknown with hkept | ⟨hfresh, hread⟩
    · exact hkept
    · rcases h with rfl | hwithin
      · exact hread
      · -- the file leads to the include, so that it would be read within itself
        rw [Within, hpending] at hwithin
        have hled := (hwithin line List.mem_cons_self).resolve_right (by rw [hd]; exact nofun)
        exact absurd hled hfresh
  · rw [hdirectories]
    exact hknown

/-- So does a run. -/
theorem Leads.known (hleads : Leads setting s t) (h : dir = Path.directory file ∨ s.Within file)
    (hknown : s.directories.get? file = some dir) : t.directories.get? file = some dir := by
  -- that the file leads to all directives is kept by each step, as the directory is
  induction hleads with
  | refl => exact hknown
  | step after _ ih => exact ih (h.imp_right after.within) (after.known h hknown)

end State

namespace Resolution

/-- A line is in the directory that is known for its file. -/
theorem baseDirectory_of_known {setting : Setting} {directories : Table String} {origin : Origin}
    {dir : String} (hknown : directories.get? origin.file = some dir) :
    baseDirectory setting directories origin = dir := by
  rw [baseDirectory, hknown]
  rfl

end Resolution

namespace Run

variable {r : Run} {s t u : State} {request : IncludeRequest}

/-- Whether the line at an origin was read from the file at `path` before the reduction comes to the
state `u`: an include found the file, and the line is one of those selected from it. -/
inductive ReadFrom (r : Run) (u : State) (path : String) : Origin → Prop
  | selected {s t : State} {request : IncludeRequest} {selection : Selection} {n : Nat}
    {text : String} (resolves : r.Resolves s request)
    (finds : Search.Finds r.setting
      (Resolution.baseDirectory r.setting s.directories request.origin) request
      (.file path selection))
    (after : State.After r.setting t s) (leads : State.Leads r.setting t u)
    (line : (n, text) ∈ selection.lines) : ReadFrom r u path (request.origin.child path n)

/-- At the start the directory of the root is known, and the root leads to all lines. -/
theorem within_start (r : Run) : r.start.state.Within r.file := by
  intro line hline
  obtain ⟨_, -, rfl⟩ := List.mem_map.1 hline
  exact .inl (List.mem_singleton.2 rfl)

/-- In every state that a reduction comes to, whatever was read before and whatever extensions have
supplied, the lines of the root are in the directory that it is given, and a line that was read from
a file is in the directory of the file. -/
theorem baseDirectory_of_reaches (hreaches : r.Reaches u) :
    (∀ n, Resolution.baseDirectory r.setting u.directories { file := r.file, line := n } =
      r.setting.rootDirectory) ∧
    ∀ path origin, r.ReadFrom u path origin →
      Resolution.baseDirectory r.setting u.directories origin = Path.directory path := by
  constructor
  · -- the root leads to all lines, so its directory stays what it is at the start
    intro n
    have hstart : r.start.state.directories.get? r.file = some r.setting.rootDirectory :=
      if_pos rfl
    exact Resolution.baseDirectory_of_known
      (State.Leads.known hreaches (.inr r.within_start) hstart)
  · rintro path origin ⟨hresolves, hfinds, hafter, hleads, -⟩
    obtain ⟨line, rest, journal, -, -, hread⟩ := hresolves.exists_after hfinds
    obtain rfl := hread.unique hafter
    -- the directory is known from the include on, and would be the same if the file was read again
    refine Resolution.baseDirectory_of_known (hleads.known (.inl rfl) ?_)
    exact (Table.get?_insert _ _ _ _).trans (if_pos rfl)

/-- An extension supplies lines for the name of the root and for that of a file, both in another
directory than the file: a line of the file is in that of the file afterwards. -/
theorem baseDirectory_of_reaches_collision :
    let processor : IncludeProcessor :=
      ⟨"p", fun target => target = "/s/b" || target = "a", fun _ => .ok (some ["y"])⟩
    let setting : Setting :=
      { registry := ⟨[processor], [], []⟩
        files := ⟨[(["s"], .directory), (["s", "b"], .file [122])]⟩, cwd := "/"
        jail := ⟨.free, "/", none⟩, rootDirectory := "/" }
    let r : Run := ⟨setting, "a", {}, ["include::/s/b[]", "include::a[]", "include::s/b[]"]⟩
    let origin : Origin := ⟨"/s/b", 1, [⟨"a", 3⟩]⟩
    ∃ s u : State, s.directories.get? "/s/b" = some "/" ∧ r.Reaches u ∧
      u.pending = [⟨"z", origin⟩] ∧ r.ReadFrom u "/s/b" origin ∧
      Resolution.baseDirectory setting u.directories { file := "a", line := 1 } = "/" ∧
      Resolution.baseDirectory setting u.directories origin = "/s" := by
  intro processor setting r origin
  let request : IncludeRequest :=
    ⟨"s/b", [], { file := "a", line := 3 }, ⟨"include::s/b[]", "s/b", ""⟩, []⟩
  -- before the file is read, its name is a target that was supplied in another directory
  have hahead : (r.start.state.ahead? setting 4).map
      (fun s => (s.pending, s.attributes, s.directories)) =
        some ([⟨"include::s/b[]", request.origin⟩], {}, [("a", "/"), ("/s/b", "/")]) := by
    decide +kernel
  obtain ⟨s, hreaches, hs⟩ := Option.map_eq_some_iff.1 hahead
  simp only [Prod.mk.injEq] at hs
  obtain ⟨hpending, hattributes, hdirectories⟩ := hs
  have hresolves : r.Resolves s request := by
    refine ⟨.of_ahead? 4 hreaches, _, [], hpending, by decide +kernel, ?_⟩
    rw [hattributes]
    decide +kernel
  have hfinds : Search.Finds setting
      (Resolution.baseDirectory setting s.directories request.origin) request
      (.file "/s/b" ⟨[(1, "z")], []⟩) := by
    rw [hdirectories]
    refine Search.finds_of_finding ?_
    decide +kernel
  obtain ⟨_, _, journal, hnext, -, hafter⟩ := hresolves.exists_after hfinds
  obtain ⟨rfl, rfl⟩ := List.cons.inj (hpending.symm.trans hnext)
  have hread := ReadFrom.selected hresolves hfinds hafter (.refl _) List.mem_cons_self
  have hcomes := hresolves.reaches.trans (.step hafter (.refl _))
  obtain ⟨hroot, hfile⟩ := baseDirectory_of_reaches hcomes
  refine ⟨s, _, ?_, hcomes, rfl, hread, hroot 1, hfile "/s/b" origin hread⟩
  rw [hdirectories]
  decide +kernel

/-- While the lines are read that an extension supplies for a target, a line among them is in the
directory that was known for the target before, or else in that of the line that includes it. -/
theorem baseDirectory_supplied {name : String} {texts : List String} {first line : Line}
    {rest more : List Line} {n : Int} (hresolves : r.Resolves s request)
    (hpending : s.pending = first :: rest)
    (hfinds : Search.Finds r.setting
      (Resolution.baseDirectory r.setting s.directories request.origin) request
      (.supplied name texts))
    (hafter : State.After r.setting t s) (hleads : State.Leads r.setting t u)
    (hreading : u.pending = line :: (more ++ rest))
    (horigin : line.origin = request.origin.child request.target n) :
    Resolution.baseDirectory r.setting u.directories line.origin =
      (s.directories.get? request.target).getD
        (Resolution.baseDirectory r.setting s.directories request.origin) := by
  obtain ⟨_, _, journal, hnext, -, hsupplied⟩ := hresolves.exists_after hfinds
  obtain ⟨rfl, rfl⟩ := List.cons.inj (hpending.symm.trans hnext)
  obtain rfl := hsupplied.unique hafter
  have hreading : u.pending = (line :: more) ++ rest := hreading
  have halone := hleads.isolate rfl hreading
  -- the target leads to all lines but the two entries around them
  have hwithin : ∀ l ∈ Resolution.offsetLines s.attributes request
      (Resolution.suppliedLines request texts), request.target ∈ l.origin.lineage ∨
        Directive.ofLine? (strippedEnd l.text) = none := by
    intro l hl
    rcases Resolution.mem_offsetLines hl with hl | ⟨-, offset, -, hentry⟩
    · obtain ⟨_, -, rfl⟩ := List.mem_map.1 hl
      refine .inl ?_
      rw [Origin.lineage_child]
      exact List.mem_append_right _ (List.mem_singleton.2 rfl)
    · exact .inr (not_directive_of_bracketWeight (bracketWeight_offsetEntry hentry))
  have hknown := halone.known (.inr hwithin)
    (Resolution.target_of_supplied s.attributes name texts)
  rw [horigin]
  exact Resolution.baseDirectory_of_known hknown

/-- A file includes a target of which an extension supplies the lines, and these include a file:
they are in the directory of the first file. -/
theorem baseDirectory_supplied_nested :
    let processor : IncludeProcessor :=
      ⟨"p", fun target => target = "x", fun _ => .ok (some ["y", "include::c[]"])⟩
    let setting : Setting :=
      { registry := ⟨[processor], [], []⟩
        files := ⟨[(["s"], .directory),
          (["s", "b"], .file [105, 110, 99, 108, 117, 100, 101, 58, 58, 120, 91, 93])]⟩
        cwd := "/", jail := ⟨.free, "/", none⟩, rootDirectory := "/" }
    let r : Run := ⟨setting, "a", {}, ["include::s/b[]"]⟩
    let origin : Origin := ⟨"/s/b", 1, [⟨"a", 1⟩]⟩
    let request : IncludeRequest := ⟨"x", [], origin, ⟨"include::x[]", "x", ""⟩, []⟩
    let line : Line := ⟨"include::c[]", origin.child "x" 2⟩
    ∃ s t u, r.Resolves s request ∧ s.pending = [⟨"include::x[]", origin⟩] ∧
      Search.Finds setting (Resolution.baseDirectory setting s.directories origin) request
        (.supplied "p" ["y", "include::c[]"]) ∧
      State.After setting t s ∧ State.Leads setting t u ∧ u.pending = [line] ∧
      Resolution.baseDirectory setting s.directories origin = "/s" ∧
      Resolution.baseDirectory setting u.directories line.origin = "/s" := by
  intro processor setting r origin request line
  let first : Line := ⟨"y", origin.child "x" 1⟩
  have hahead : (r.start.state.ahead? setting 1).map
      (fun s => (s.pending, s.attributes, s.verbatim, s.directories)) =
        some ([⟨"include::x[]", origin⟩], {}, none, [("a", "/"), ("/s/b", "/s")]) := by
    decide +kernel
  obtain ⟨s, hreaches, hs⟩ := Option.map_eq_some_iff.1 hahead
  simp only [Prod.mk.injEq] at hs
  obtain ⟨hpending, hattributes, hverbatim, hdirectories⟩ := hs
  have hresolves : r.Resolves s request := by
    refine ⟨.of_ahead? 1 hreaches, _, [], hpending, by decide +kernel, ?_⟩
    rw [hattributes]
    decide +kernel
  have hbase : Resolution.baseDirectory setting s.directories origin = "/s" := by
    rw [hdirectories]
    decide +kernel
  have hfinds : Search.Finds setting (Resolution.baseDirectory setting s.directories origin) request
      (.supplied "p" ["y", "include::c[]"]) := by
    rw [hbase]
    refine Search.finds_of_finding ?_
    decide +kernel
  obtain ⟨t, hafter, hsupplied, houtside⟩ :
      ∃ t, State.After setting t s ∧ t.pending = [first, line] ∧ t.verbatim = none := by
    obtain ⟨_, _, journal, hnext, -, hafter⟩ := hresolves.exists_after hfinds
    obtain ⟨rfl, rfl⟩ := List.cons.inj (hpending.symm.trans hnext)
    exact ⟨_, hafter, rfl, hverbatim⟩
  -- the first of the lines is plain
  have hplain : Hit.ofLine? t.verbatim first.text = (none, none) := by
    rw [houtside]
    decide +kernel
  have hstep : State.After setting ((t.withVerbatim none).emit first [line]) t := by
    rw [State.After, State.step_of_cons hsupplied, State.onLine_of_none hplain]
    rfl
  have hleads := State.Leads.step hstep (.refl _)
  have horigin : line.origin = request.origin.child request.target 2 := rfl
  have hreading : ((t.withVerbatim none).emit first [line]).pending = line :: ([] ++ []) := rfl
  have hdirectory :=
    baseDirectory_supplied hresolves hpending hfinds hafter hleads hreading horigin
  refine ⟨s, t, _, hresolves, hpending, hfinds, hafter, hleads, rfl, hbase, hdirectory.trans ?_⟩
  rw [hdirectories]
  decide +kernel

/-- The lines that an extension supplies for a target are in the wrong directory, if the target was
included in another directory before: they read the file beside the root document, where the
directive stands in a file with another one beside it. -/
theorem baseDirectory_supplied_stale :
    let processor : IncludeProcessor :=
      ⟨"p", fun target => target = "x", fun _ => .ok (some ["include::c[]"])⟩
    let setting : Setting :=
      { registry := ⟨[processor], [], []⟩
        files := ⟨[(["c"], .file [99]), (["s"], .directory),
          (["s", "b"], .file [105, 110, 99, 108, 117, 100, 101, 58, 58, 120, 91, 93]),
          (["s", "c"], .file [100])]⟩
        cwd := "/", jail := ⟨.free, "/", none⟩, rootDirectory := "/" }
    let r : Run := ⟨setting, "a", {}, ["include::x[]", "include::s/b[]"]⟩
    let origin : Origin := ⟨"/s/b", 1, [⟨"a", 2⟩]⟩
    let request : IncludeRequest := ⟨"x", [], origin, ⟨"include::x[]", "x", ""⟩, []⟩
    let line : Line := ⟨"include::c[]", origin.child "x" 1⟩
    ∃ s t, r.Resolves s request ∧
      Search.Finds setting (Resolution.baseDirectory setting s.directories origin) request
        (.supplied "p" ["include::c[]"]) ∧
      State.After setting t s ∧ t.pending = [line] ∧
      Resolution.baseDirectory setting s.directories origin = "/s" ∧
      Resolution.baseDirectory setting t.directories line.origin = "/" ∧
      ∃ result journal, r.buffer.reduce setting "a" {} = .ok (result, journal) ∧
        result.lines.map (·.text) = ["c", "c"] := by
  intro processor setting r origin request line
  have hahead : (r.start.state.ahead? setting 4).map
      (fun s => (s.pending, s.attributes, s.directories)) =
        some ([⟨"include::x[]", origin⟩], {},
          [("a", "/"), ("x", "/"), ("/c", "/"), ("/s/b", "/s")]) := by
    decide +kernel
  obtain ⟨s, hreaches, hs⟩ := Option.map_eq_some_iff.1 hahead
  simp only [Prod.mk.injEq] at hs
  obtain ⟨hpending, hattributes, hdirectories⟩ := hs
  have hresolves : r.Resolves s request := by
    refine ⟨.of_ahead? 4 hreaches, _, [], hpending, by decide +kernel, ?_⟩
    rw [hattributes]
    decide +kernel
  have hbase : Resolution.baseDirectory setting s.directories origin = "/s" := by
    rw [hdirectories]
    decide +kernel
  have hfinds : Search.Finds setting (Resolution.baseDirectory setting s.directories origin) request
      (.supplied "p" ["include::c[]"]) := by
    rw [hbase]
    refine Search.finds_of_finding ?_
    decide +kernel
  obtain ⟨_, _, journal, hnext, -, hafter⟩ := hresolves.exists_after hfinds
  obtain ⟨rfl, rfl⟩ := List.cons.inj (hpending.symm.trans hnext)
  have hwithin : (r.start.state.runWithin setting 8).map (fun ended => ended.1.map (·.text)) =
      some ["c", "c"] := by
    decide +kernel
  obtain ⟨⟨lines, c⟩, hrun, htexts⟩ := Option.map_eq_some_iff.1 hwithin
  refine ⟨s, _, hresolves, hfinds, hafter, rfl, hbase, ?_, _, _, Buffer.reduce_of_runWithin 8 hrun,
    htexts⟩
  -- the target still has the directory of the root
  refine Resolution.baseDirectory_of_known ?_
  refine (Resolution.target_of_supplied s.attributes "p" ["include::c[]"]).trans ?_
  rw [hdirectories]
  decide +kernel

end Run

end Transclude
