import Transclude.Proofs.Paths
import Transclude.Reduction.Run

/-!
# Includes stay in their jail

The resolution of an include looks at the file system at one path at most, and at none that its jail
does not hold. A journal has all paths at which a reduction looked, and what a reduction comes to
depends on no other part of the file system.

## Main definitions

* `Jail.Holds`       : whether a path lies in a jail.
* `Setting.Consults` : whether the resolution of some include looks at a path.
* `FileTree.AgreeOn` : whether two file systems are the same at some paths.
* `Buffer.journal`   : the journal of a reduction, even if it could not go on.

## Main statements

* `Jail.holds_of_resolve`     : a jail lets a target through only to paths that it holds.
* `State.consulted_of_run`    : all paths in a journal are those of includes.
* `State.run_withFiles`       : a run depends on no other paths than those let through.
* `Buffer.reduce_contained`   : the reduction of a document stays in its jail.
-/

namespace Transclude

/-- Whether a jail holds a path: it is one slash or two, and names with slashes between them, and
it has the names of the jail at its start, or, in safe mode, those of the one other directory. -/
structure Jail.Holds (jail : Jail) (path : String) : Prop where
  absolute : Path.isAbsolute path = true
  rooted : Path.Rooted path
  within : Path.names jail.root <+: Path.names path ∨
    jail.mode = .safe ∧ ∃ root, jail.includeRoot = some root ∧ Path.names root <+: Path.names path

/-- Whether the directories of a jail are slashes and names. -/
structure Jail.Normal (jail : Jail) : Prop where
  root : Path.Rooted jail.root
  other : ∀ other, jail.includeRoot = some other → Path.Rooted other

/-- Whether the resolution of some include directive looks at a path. -/
def Setting.Consults (setting : Setting) (path : String) : Prop :=
  ∃ directories a d origin request, IncludeRequest.ofDirective a d origin = .ok request ∧
    path ∈ (Search.ofRequest setting (Resolution.baseDirectory setting directories origin)
      request).consulted

/-! ## One include -/

/-- The directories of a jail are absolute and normal. -/
theorem Jail.normal_of {cwd : String} (hcwd : Path.isAbsolute cwd = true) (mode : SafeMode)
    (dir : String) (includeRoot : Option String) :
    (Jail.of mode cwd (some dir) includeRoot).Normal := by
  have hroot : (Jail.of mode cwd (some dir) includeRoot).root = Path.absolute cwd dir := by
    simp only [Jail.of, Option.map_some, Option.getD_some]
  refine ⟨?_, fun other hother => ?_⟩
  · rw [hroot]
    exact Path.rooted_absolute hcwd dir
  · obtain ⟨given, -, rfl⟩ := Option.map_eq_some_iff.1 hother
    exact Path.rooted_absolute hcwd given

/-- A jail lets a target through only to a path that it holds, and in strict mode only if no part of
the target is a parent. -/
theorem Jail.holds_of_resolve {jail : Jail} {cwd base target path : String} (hjail : jail.Normal)
    (hmode : jail.mode ≠ .free) (hcwd : Path.isAbsolute cwd = true)
    (h : jail.resolve cwd base target = .ok path) :
    jail.Holds path ∧ (jail.mode = .strict → climbs target = false) := by
  have hpath := Path.rooted_absolute hcwd (Path.join base target)
  unfold resolve at h
  dsimp only at h
  -- all that counts of the path is that it is slashes and names
  generalize Path.absolute cwd (Path.join base target) = candidate at h hpath
  split at h
  · exact absurd (by assumption) hmode
  · split at h
    · cases h
    · rename_i hclimbs
      split at h
      · rename_i hwithin
        cases h
        exact ⟨⟨hpath.absolute, hpath, .inl (Path.names_of_isWithin hjail.root hwithin)⟩,
          fun _ => eq_false_of_ne_true hclimbs⟩
      · cases h
  · rename_i hsafe
    refine ⟨?_, fun hstrict => by rw [hsafe] at hstrict; cases hstrict⟩
    split at h
    · rename_i hwithin
      cases h
      exact ⟨hpath.absolute, hpath, .inl (Path.names_of_isWithin hjail.root hwithin)⟩
    · split at h
      · rename_i hother
        cases h
        obtain ⟨other, hsome, hwithin⟩ := (Option.any_eq_true _ _).1 hother
        exact ⟨hpath.absolute, hpath, .inr ⟨hsafe, other, hsome,
          Path.names_of_isWithin (hjail.other other hsome) hwithin⟩⟩
      · split at h
        · cases h
        · cases h

namespace Search

variable {s : Setting} {request : IncludeRequest} {base path : String}

/-- At a path that the jail permits, nothing else is looked at. -/
theorem eq_of_mem_atPath {permitted : String} (h : path ∈ (atPath s request permitted).consulted) :
    path = permitted := by
  unfold atPath at h
  split at h
  · cases h
  · split at h
    · dsimp only at h
      split at h
      · exact List.mem_singleton.1 h
      · exact List.mem_singleton.1 h
      · split at h
        · exact List.mem_singleton.1 h
        · exact List.mem_singleton.1 h
    · split at h
      · exact List.mem_singleton.1 h
      · exact List.mem_singleton.1 h

/-- A path is looked at only if the jail lets the target through to it. -/
theorem resolve_of_consulted (h : path ∈ (ofRequest s base request).consulted) :
    s.jail.resolve s.cwd base request.target = .ok path := by
  unfold ofRequest at h
  split at h
  · cases h
  · split at h
    · cases h
    · cases h
    · split at h
      · cases h
      · split at h
        · cases h
        · rename_i permitted hpermitted
          rw [hpermitted, eq_of_mem_atPath h]

end Search

namespace Resolution

/-- Only the search for an include looks at the file system. -/
theorem path?_of_finding (s : Setting) (directories : Table String) (a : AttributeSet)
    (request : IncludeRequest) (finding : Finding) :
    ∀ e ∈ (ofFinding s directories a request finding).events, e.path? = none := by
  intro e he
  cases finding with
  | supplied name texts =>
    rw [List.mem_singleton.1 he]
    rfl
  | link => cases he
  | file path selection =>
    rcases List.mem_append.1 he with he | he
    · obtain ⟨text, -, rfl⟩ := List.mem_map.1 he
      rfl
    · rw [List.mem_singleton.1 he]
      rfl
  | problem p =>
    rw [List.mem_singleton.1 he]
    rfl

/-- The paths of looks at the file system. -/
theorem filterMap_path?_consulted (paths : List String) :
    (paths.map Event.consulted).filterMap Event.path? = paths := by
  rw [List.filterMap_map]
  exact List.filterMap_some

/-- The paths at which the resolution of an include looked, whether or not it came to its end. -/
def looked : Except Interruption Resolution → List String
  | .ok r => r.events.filterMap Event.path?
  | .error i => i.journal.consulted

/-- The resolution of an include looks at what the search for it looks at. -/
theorem consults_of_looked {s : Setting} {directories : Table String} {a : AttributeSet}
    {d : Include} {origin : Origin} {outcome : Except Interruption Resolution} {path : String}
    (houtcome : ofDirective s directories a d origin = outcome) (h : path ∈ looked outcome) :
    s.Consults path := by
  cases outcome with
  | ok r =>
    rcases eq_of_ofDirective houtcome with ⟨_, rfl⟩ | ⟨request, finding, hrequest, -, rfl⟩
    · cases h
    · -- the search comes first, and what is made of its finding looks at nothing
      have hnone := List.filterMap_eq_nil_iff.2
        (path?_of_finding s directories a request finding)
      refine ⟨directories, a, d, origin, request, hrequest, ?_⟩
      simpa only [looked, List.filterMap_append, filterMap_path?_consulted, hnone,
        List.append_nil] using h
  | error i =>
    obtain ⟨request, hrequest, hjournal⟩ := error_of_ofDirective houtcome
    refine ⟨directories, a, d, origin, request, hrequest, ?_⟩
    simpa only [looked, hjournal, Journal.consulted, filterMap_path?_consulted] using h

end Resolution

/-! ## Whole runs -/

namespace Context

variable {setting : Setting} {c after : Context} {origin : Origin}

/-- The journal after an include has the paths at which its resolution looked. -/
theorem consulted_of_resolve {d : Include} {lines : List Line}
    (h : c.resolve setting d origin = .ok (lines, after)) :
    ∀ path ∈ after.journal.consulted, path ∈ c.journal.consulted ∨ setting.Consults path := by
  unfold resolve at h
  split at h
  · cases h
  · rename_i r hr
    cases h
    intro path hpath
    simp only [Journal.consulted, Array.toList_appendList, List.filterMap_append] at hpath
    rcases List.mem_append.1 hpath with hpath | hpath
    · exact .inl hpath
    · exact .inr (Resolution.consults_of_looked hr hpath)

/-- So does the journal of an include whose resolution does not come to its end. -/
theorem consulted_of_resolve_error {d : Include} {i : Interruption}
    (h : c.resolve setting d origin = .error i) :
    ∀ path ∈ i.journal.consulted, path ∈ c.journal.consulted ∨ setting.Consults path := by
  unfold resolve at h
  split at h
  · rename_i interruption hi
    cases h
    intro path hpath
    rw [Journal.consulted_append] at hpath
    rcases List.mem_append.1 hpath with hpath | hpath
    · exact .inl hpath
    · exact .inr (Resolution.consults_of_looked hi hpath)
  · cases h

end Context

namespace State

variable {setting : Setting} {s t : State} {line : Line} {rest : List Line}

/-- A step looks at what the resolution of an include looks at. -/
theorem Rule.consulted (h : Rule setting s line rest t) :
    ∀ path ∈ t.journal.consulted, path ∈ s.journal.consulted ∨ setting.Consults path := by
  have hsame : ∀ {journal : Journal}, journal.consulted = s.journal.consulted →
      ∀ path ∈ journal.consulted, path ∈ s.journal.consulted ∨ setting.Consults path := by
    intro journal hjournal path hpath
    rw [hjournal] at hpath
    exact .inl hpath
  cases h with
  | plain | inlineRewritten | inlineKept => exact hsame rfl
  | entry e =>
    obtain ⟨_, _, heq, hjournal⟩ := s.toContext.afterEntry_eq e
    refine hsame ?_
    show (s.afterEntry e).journal.consulted = _
    rw [heq, hjournal]
  | inclusion d lines c _ resolved => exact Context.consulted_of_resolve resolved
  | closingDropped d | closingKept d =>
    obtain ⟨_, _, heq, hjournal⟩ := s.toContext.afterClosing_eq d line.origin
    refine hsame ?_
    show (s.afterClosing d line.origin).journal.consulted = _
    rw [heq, hjournal]
  | inlineTrue d text c _ _ _ judged | inlineFalse d text c _ _ _ judged
  | blockTrue d c _ _ _ judged =>
    obtain ⟨_, rfl, hjournal⟩ := Context.eq_of_judge judged
    exact hsame hjournal
  | blockFalse d c _ _ _ judged =>
    obtain ⟨_, rfl, hjournal⟩ := Context.eq_of_judge judged
    obtain ⟨-, _, heq, hskip⟩ := skip_eq (s.withContext _) line rest d
    rw [heq]
    exact hsame (hskip.trans hjournal)
  | blockKept d active c _ _ _ judged =>
    obtain ⟨_, rfl, hjournal⟩ := Context.eq_of_judgeWithin judged
    exact hsame hjournal

/-- So does a step that does not come to its end. -/
theorem consulted_of_step_error {i : Interruption} (h : s.step setting = .error i) :
    ∀ path ∈ i.journal.consulted, path ∈ s.journal.consulted ∨ setting.Consults path := by
  obtain ⟨_, _, -, ⟨d, -, hresolve⟩ | ⟨d, -, -, hjudge⟩⟩ := error_of_step h
  · exact Context.consulted_of_resolve_error hresolve
  · obtain ⟨_, rfl⟩ := Context.eq_of_judge_error hjudge
    exact fun path hpath => .inl hpath

/-- The journal of a run, whether or not it came to its end. -/
def journalOf : Except Interruption (List Line × Context) → Journal
  | .ok (_, c) => c.journal
  | .error i => i.journal

/-- A run looks at what the resolutions of includes look at. -/
theorem consulted_of_run (setting : Setting) (s : State) :
    ∀ path ∈ (journalOf (s.run setting)).consulted,
      path ∈ s.journal.consulted ∨ setting.Consults path := by
  fun_induction State.run setting s with
  | case1 s hstep => exact fun path hpath => .inl hpath
  | case2 s t hstep ih =>
    obtain ⟨line, rest, -, honLine⟩ := onLine_of_step hstep
    intro path hpath
    rcases ih path hpath with hbefore | hconsults
    · exact (rule_of_onLine honLine).consulted path hbefore
    · exact .inr hconsults
  | case3 s i hstep => exact consulted_of_step_error hstep

end State

/-! ## Files that make no difference -/

/-- Whether two file systems are the same at the paths of which `held` holds. -/
def FileTree.AgreeOn (held : String → Prop) (cwd : String) (t t' : FileTree) : Prop :=
  ∀ path, held path → t.isFile cwd path = t'.isFile cwd path ∧ t.read cwd path = t'.read cwd path

/-- The setting with other files. -/
def Setting.withFiles (setting : Setting) (files : FileTree) : Setting :=
  { setting with files := files }

namespace Setting

@[simp] theorem withFiles_files (setting : Setting) (files : FileTree) :
    (setting.withFiles files).files = files := rfl

@[simp] theorem withFiles_options (setting : Setting) (files : FileTree) :
    (setting.withFiles files).options = setting.options := rfl

@[simp] theorem withFiles_registry (setting : Setting) (files : FileTree) :
    (setting.withFiles files).registry = setting.registry := rfl

@[simp] theorem withFiles_cwd (setting : Setting) (files : FileTree) :
    (setting.withFiles files).cwd = setting.cwd := rfl

@[simp] theorem withFiles_names (setting : Setting) (files : FileTree) :
    (setting.withFiles files).names = setting.names := rfl

@[simp] theorem withFiles_jail (setting : Setting) (files : FileTree) :
    (setting.withFiles files).jail = setting.jail := rfl

end Setting

variable {setting : Setting} {files : FileTree}

/-- What is found at a path depends on nothing else in the file system. -/
theorem Search.atPath_withFiles {path : String}
    (hfile : files.isFile setting.cwd path = setting.files.isFile setting.cwd path)
    (hread : files.read setting.cwd path = setting.files.read setting.cwd path)
    (request : IncludeRequest) :
    atPath (setting.withFiles files) request path = atPath setting request path := by
  have htext : ∀ encoding,
      readText (setting.withFiles files) encoding path = readText setting encoding path := by
    intro encoding
    simp only [readText, Setting.withFiles_files, Setting.withFiles_cwd, Setting.withFiles_names,
      hread]
  simp only [atPath, htext, Setting.withFiles_files, Setting.withFiles_cwd,
    Setting.withFiles_options, hfile]

section Held

variable {held : String → Prop}
  (hheld : ∀ base target path, setting.jail.resolve setting.cwd base target = .ok path → held path)
  (hagree : FileTree.AgreeOn held setting.cwd files setting.files)
include hheld hagree

/-- What is found for an include depends on the paths that the jail lets through only. -/
theorem Search.ofRequest_withFiles (base : String) (request : IncludeRequest) :
    ofRequest (setting.withFiles files) base request = ofRequest setting base request := by
  simp only [ofRequest, Setting.withFiles_options, Setting.withFiles_registry,
    Setting.withFiles_jail, Setting.withFiles_cwd]
  cases hpath : setting.jail.resolve setting.cwd base request.target with
  | error violation => rfl
  | ok path =>
    obtain ⟨hfile, hread⟩ := hagree path (hheld base request.target path hpath)
    simp only [atPath_withFiles hfile hread request]

/-- What takes the place of an include depends on these paths only. -/
theorem Context.resolve_withFiles (c : Context) (d : Include) (origin : Origin) :
    c.resolve (setting.withFiles files) d origin = c.resolve setting d origin := by
  have hdirective : ∀ directories a, Resolution.ofDirective (setting.withFiles files) directories a
      d origin = Resolution.ofDirective setting directories a d origin := by
    intro directories a
    unfold Resolution.ofDirective
    split
    · rfl
    · rename_i request _
      have hbase : Resolution.baseDirectory (setting.withFiles files) directories origin =
          Resolution.baseDirectory setting directories origin := rfl
      rw [hbase, Search.ofRequest_withFiles hheld hagree]
      rfl
  unfold resolve
  rw [hdirective]

namespace State

/-- A run depends on no other paths than those that the jail lets through. -/
theorem run_withFiles (s : State) :
    s.run (setting.withFiles files) = s.run setting := by
  -- only an include reads files
  refine run_congr fun t _ => ?_
  refine step_congr rfl rfl fun line rest d _ _ => ?_
  exact t.resolve_withFiles hheld hagree d line.origin

end State

end Held

/-! ## Reductions of documents -/

/-- The journal of a reduction, whether or not it came to its end. -/
def Buffer.journal (setting : Setting) (file : String) (attributes : AttributeSet) (b : Buffer) :
    Journal :=
  match b.reduce setting file attributes with
  | .ok (_, journal) => journal
  | .error i => i.journal

/-- A reduction looks at what the resolutions of includes look at. -/
theorem Buffer.consults_of_journal {file : String} {attributes : AttributeSet} {b : Buffer}
    {path : String} (h : path ∈ (b.journal setting file attributes).consulted) :
    setting.Consults path := by
  have hrun := State.consulted_of_run setting (Loop.start setting file attributes b).state path
  have hstart : (Loop.start setting file attributes b).state.journal.consulted = [] := rfl
  rw [hstart] at hrun
  unfold Buffer.journal Buffer.reduce at h
  rw [Loop.run_eq] at h
  cases hresult : (Loop.start setting file attributes b).state.run setting with
  | ok ended =>
    obtain ⟨lines, c⟩ := ended
    rw [hresult] at h hrun
    -- the report of blocks that were never ended looks at nothing
    obtain ⟨journal, heq, hjournal⟩ := c.reportAll_eq
      (c.frames.reverse.map fun frame => (Context.unterminated frame.raw, frame.origin))
    have hfinish : path ∈ c.finish.journal.consulted := h
    rw [Context.finish, heq, hjournal] at hfinish
    exact (hrun hfinish).resolve_left List.not_mem_nil
  | error i =>
    rw [hresult] at h hrun
    exact (hrun h).resolve_left List.not_mem_nil

/-- In safe and in strict mode the reduction of a document stays in its jail. The current directory
is an absolute path, as the system gives it. Every path at which the reduction looks is one at which
the resolution of an include looks, and lies in the jail; in strict mode no part of the target after
substitution is a parent. What the reduction comes to depends on nothing else in the file
system. -/
theorem Buffer.reduce_contained (options : Options) (evaluator : Evaluator) (registry : Registry)
    (files : FileTree) (cwd jailDirectory rootDirectory file : String) (attributes : AttributeSet)
    (b : Buffer) (names : CharacterNames) (hmode : options.safeMode ≠ .free)
    (hcwd : Path.isAbsolute cwd = true) :
    let setting :=
      Setting.jailed options evaluator registry files cwd jailDirectory rootDirectory names
    (∀ path ∈ (b.journal setting file attributes).consulted,
        setting.jail.Holds path ∧ setting.Consults path) ∧
      (∀ base request, ∀ path ∈ (Search.ofRequest setting base request).consulted,
        setting.jail.Holds path ∧ (options.safeMode = .strict →
          ['.', '.'] ∉ Text.fields (fun c => c == '/' || c == '\\') request.target.toList)) ∧
      ∀ files', FileTree.AgreeOn setting.jail.Holds cwd files' files →
        b.reduce (setting.withFiles files') file attributes =
          b.reduce setting file attributes := by
  intro setting
  have hjail : setting.jail.Normal :=
    Jail.normal_of hcwd options.safeMode jailDirectory options.includeRoot
  have hresolve : ∀ base target path, setting.jail.resolve setting.cwd base target = .ok path →
      setting.jail.Holds path ∧ (options.safeMode = .strict → Jail.climbs target = false) :=
    fun base target path => Jail.holds_of_resolve hjail hmode hcwd
  refine ⟨?_, ?_, ?_⟩
  · intro path hpath
    have hconsults := Buffer.consults_of_journal hpath
    obtain ⟨directories, a, d, origin, request, -, hsearch⟩ := hconsults
    exact ⟨(hresolve _ _ _ (Search.resolve_of_consulted hsearch)).1,
      Buffer.consults_of_journal hpath⟩
  · intro base request path hpath
    obtain ⟨hholds, hclimbs⟩ := hresolve _ _ _ (Search.resolve_of_consulted hpath)
    refine ⟨hholds, fun hstrict hparent => ?_⟩
    have hnone := hclimbs hstrict
    rw [Jail.climbs, List.contains_iff_mem.2 hparent] at hnone
    cases hnone
  · intro files' hagree
    have hrun := State.run_withFiles (fun base target path h => (hresolve base target path h).1)
      hagree (Loop.start setting file attributes b).state
    rw [Buffer.reduce, Buffer.reduce, Loop.run_eq, Loop.run_eq]
    exact congrArg (Except.map fun ended : List Line × Context =>
      Result.ofRun setting file ended.1 ended.2) hrun

/-- In strict mode, a document in the jail that includes a file beside it. There is no such file,
and the jail holds the one path at which the reduction looks for it. -/
theorem Buffer.reduce_contained_strict :
    let setting : Setting := .jailed { safeMode := .strict } .standard {} {} "/" "/jail" "/jail"
    let b : Buffer := ⟨[⟨"include::a[opts=optional]", { file := "d", line := 1 }⟩]⟩
    "/jail/a" ∈ (b.journal setting "d" {}).consulted ∧
      ∀ path ∈ (b.journal setting "d" {}).consulted, setting.jail.Holds path := by
  intro setting b
  let last : Context := { Context.start setting "d" {} with
    journal := #[.consulted "/jail/a", .found ⟨.info,
      "optional include dropped because include file not found: /jail/a",
      { file := "d", line := 1 }, .notice⟩] }
  have hstep : State.After setting ⟨last, #[], []⟩ (Loop.start setting "d" {} b).state := by
    refine State.after_of_toOption ?_
    decide +kernel
  have hreduce : b.reduce setting "d" {} = .ok (Result.ofRun setting "d" [] last) := by
    rw [Buffer.reduce, Loop.run_eq, State.run_of_after hstep, State.run_of_nil]
    rfl
  obtain ⟨hholds, -, -⟩ := Buffer.reduce_contained { safeMode := .strict } .standard {} {} "/"
    "/jail" "/jail" "d" {} b .unknown (by decide) (by decide)
  refine ⟨?_, fun path hpath => (hholds path hpath).1⟩
  rw [Buffer.journal, hreduce]
  decide +kernel

end Transclude
