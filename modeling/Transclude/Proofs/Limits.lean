import Transclude.Proofs.Provenance

/-!
# Limits that are not reached

The depth of includes is limited, and so are the places from which they may read. A reduction that
meets neither limit does not depend on them: with a greater depth, under a looser policy, or with
one more directory to include from, it comes to the same lines, the same journal and the same
attributes. For whatever a policy lets through, a looser one lets through to the same path, and no
limit is met without a diagnostic, which stays to the end.

## Main definitions

* `SafeMode.strictness`     : how strict a policy is.
* `Jail.Loosens`            : whether a jail is as loose as another one.
* `Setting.withLimits`      : a setting with other limits.
* `Diagnostic.ExceedsDepth` : whether a diagnostic is about the depth of includes.
* `Diagnostic.ViolatesJail` : whether a diagnostic is about a place where includes may not read.

## Main statements

* `Jail.Loosens.resolve`        : a looser jail lets targets through to the same paths.
* `State.Leads.journal_stays`   : what is in the journal stays there.
* `Buffer.reduce_loosened`      : looser limits make no difference to a reduction that meets none.
-/

namespace Transclude

open Transclude.Text

/-! ## Looser policies -/

/-- How strict a policy is. -/
def SafeMode.strictness : SafeMode → Nat
  | .free => 0
  | .safe => 1
  | .strict => 2

/-- Whether the second jail is as loose as the first: it is in the same place, and its policy is not
stricter. If safe mode stays, so does the other directory, if there is one. -/
structure Jail.Loosens (jail looser : Jail) : Prop where
  root : looser.root = jail.root
  mode : looser.mode.strictness ≤ jail.mode.strictness
  other : jail.mode = .safe → looser.mode = .safe → ∀ dir, jail.includeRoot = some dir →
    looser.includeRoot = some dir

/-- Whether the policy of a jail allows a path for a target. -/
def Jail.Permits (jail : Jail) (target path : String) : Prop :=
  match jail.mode with
  | .free => True
  | .safe => Path.isWithin path jail.root = true ∨
      ∃ dir, jail.includeRoot = some dir ∧ Path.isWithin path dir = true
  | .strict => climbs target = false ∧ Path.isWithin path jail.root = true

/-- A jail lets a target through to the path that it names, if its policy allows that. -/
theorem Jail.resolve_eq_ok_iff {jail : Jail} {cwd base target path : String} :
    jail.resolve cwd base target = .ok path ↔
      path = Path.absolute cwd (Path.join base target) ∧ jail.Permits target path := by
  unfold resolve Permits
  dsimp only
  -- all that counts of the path is where it lies
  generalize Path.absolute cwd (Path.join base target) = candidate
  cases jail.mode with
  | free => exact ⟨fun h => ⟨(Except.ok.inj h).symm, trivial⟩, fun h => congrArg _ h.1.symm⟩
  | strict =>
    dsimp only
    split
    · rename_i hclimbs
      refine ⟨fun h => (nomatch h), fun ⟨_, hparts, _⟩ => ?_⟩
      rw [hclimbs] at hparts
      cases hparts
    · rename_i hparts
      split
      · rename_i hwithin
        refine ⟨fun h => ?_, fun h => congrArg _ h.1.symm⟩
        cases h
        exact ⟨rfl, eq_false_of_ne_true hparts, hwithin⟩
      · rename_i houtside
        refine ⟨fun h => (nomatch h), fun ⟨heq, _, hwithin⟩ => ?_⟩
        exact absurd (heq ▸ hwithin) houtside
  | safe =>
    dsimp only
    split
    · rename_i hwithin
      refine ⟨fun h => ?_, fun h => congrArg _ h.1.symm⟩
      cases h
      exact ⟨rfl, .inl hwithin⟩
    · rename_i houtside
      split
      · rename_i hother
        refine ⟨fun h => ?_, fun h => congrArg _ h.1.symm⟩
        cases h
        exact ⟨rfl, .inr ((Option.any_eq_true _ _).1 hother)⟩
      · rename_i hother
        have hnone : ∀ violation : Violation, Except.error violation = Except.ok path ↔
            path = candidate ∧ (Path.isWithin path jail.root = true ∨
              ∃ dir, jail.includeRoot = some dir ∧ Path.isWithin path dir = true) := by
          refine fun violation => ⟨fun h => (nomatch h), fun ⟨heq, hwithin⟩ => ?_⟩
          rw [heq] at hwithin
          rcases hwithin with hwithin | hwithin
          · exact absurd hwithin houtside
          · exact absurd ((Option.any_eq_true _ _).2 hwithin) hother
        split
        · exact hnone _
        · exact hnone _

/-- What a jail lets through, a looser one lets through to the same path. -/
theorem Jail.Loosens.resolve {jail looser : Jail} {cwd base target path : String}
    (h : jail.Loosens looser) (hpath : jail.resolve cwd base target = .ok path) :
    looser.resolve cwd base target = .ok path := by
  obtain ⟨heq, hpermits⟩ := Jail.resolve_eq_ok_iff.1 hpath
  refine Jail.resolve_eq_ok_iff.2 ⟨heq, ?_⟩
  have hmode := h.mode
  unfold Jail.Permits at hpermits ⊢
  cases hlooser : looser.mode with
  | free => trivial
  | safe =>
    cases hfirst : jail.mode with
    | free =>
      -- a policy that is not stricter than the free one is free
      rw [hlooser, hfirst] at hmode
      exact absurd hmode (by decide)
    | safe =>
      rw [hfirst] at hpermits
      rcases hpermits with hwithin | ⟨dir, hdir, hwithin⟩
      · exact .inl (h.root ▸ hwithin)
      · exact .inr ⟨dir, h.other hfirst hlooser dir hdir, hwithin⟩
    | strict =>
      rw [hfirst] at hpermits
      exact .inl (h.root ▸ hpermits.2)
  | strict =>
    cases hfirst : jail.mode with
    | strict =>
      rw [hfirst] at hpermits
      exact ⟨hpermits.1, h.root ▸ hpermits.2⟩
    | free | safe =>
      rw [hlooser, hfirst] at hmode
      exact absurd hmode (by decide)

/-! ## Problems with limits -/

/-- Whether an include yields no lines because of a limit. -/
def IncludeProblem.isLimit : IncludeProblem → Bool
  | .tooDeep _ | .forbidden _ => true
  | _ => false

/-- Whether a diagnostic says that includes stand inside each other deeper than the limit. -/
def Diagnostic.ExceedsDepth (p : Diagnostic) : Prop :=
  p.category = .structural ∧
    ∃ limit : String, p.message = s!"maximum include depth of {limit} exceeded"

/-- Whether a diagnostic says that an include reads where it may not. -/
def Diagnostic.ViolatesJail (p : Diagnostic) : Prop :=
  p.category = .resolution ∧ ∃ violation : Violation, p.message = violation.message

/-- Whether a diagnostic says that a limit is met. -/
def Diagnostic.MeetsLimit (p : Diagnostic) : Prop := p.ExceedsDepth ∨ p.ViolatesJail

/-- A limit is not met without a diagnostic that says so. -/
theorem IncludeProblem.meetsLimit {problem : IncludeProblem} (h : problem.isLimit = true)
    (o : Options) (d : Include) (origin : Origin) :
    (problem.diagnostic o d origin).MeetsLimit := by
  cases problem with
  | tooDeep limit => exact .inl ⟨rfl, limit, rfl⟩
  | forbidden violation => exact .inr ⟨rfl, violation, rfl⟩
  | missingAttribute | emptyTarget | circular | optionalMissing | missing | unreadable => cases h

/-- The setting with other limits. -/
def Setting.withLimits (s : Setting) (depth : Choice Nat) (mode : SafeMode)
    (includeRoot : Option String) (jail : Jail) : Setting :=
  { s with
    options := { s.options with
      maxIncludeDepth := depth, safeMode := mode, includeRoot := includeRoot }
    jail := jail }

namespace Setting

variable (s : Setting) (depth : Choice Nat) (mode : SafeMode) (includeRoot : Option String)
  (jail : Jail)

@[simp] theorem withLimits_registry :
    (s.withLimits depth mode includeRoot jail).registry = s.registry := rfl

@[simp] theorem withLimits_cwd : (s.withLimits depth mode includeRoot jail).cwd = s.cwd := rfl

@[simp] theorem withLimits_jail : (s.withLimits depth mode includeRoot jail).jail = jail := rfl

end Setting

section Looser

variable {s : Setting} {depth : Choice Nat} (mode : SafeMode) (includeRoot : Option String)
  {jail : Jail} (hdepth : s.options.maxIncludeDepth.meaning ≤ depth.meaning)
  (hjail : s.jail.Loosens jail)
include hdepth hjail

/-- A search that meets no limit finds the same under looser ones. -/
theorem Search.ofRequest_withLimits {base : String} {request : IncludeRequest}
    (h : ∀ p, (ofRequest s base request).finding = .ok (.problem p) → p.isLimit = false) :
    ofRequest (s.withLimits depth mode includeRoot jail) base request =
      ofRequest s base request := by
  unfold ofRequest at h ⊢
  by_cases hdeep : s.options.maxIncludeDepth.meaning < request.origin.depth + 1
  · -- the problem with the depth is one with a limit
    rw [if_pos hdeep] at h
    cases h _ rfl
  have hdeep' : ¬ depth.meaning < request.origin.depth + 1 := by
    omega
  rw [if_neg hdeep] at h
  rw [if_neg hdeep, if_neg (by exact hdeep')]
  simp only [Setting.withLimits_registry, Setting.withLimits_cwd, Setting.withLimits_jail]
  cases hsupplied : supply? request (s.registry.claim request.target) with
  | error abort => rfl
  | ok supplied =>
    cases supplied with
    | some supplied => rfl
    | none =>
      rw [hsupplied] at h
      dsimp only at h ⊢
      by_cases huri : Path.isUri request.target = true
      · rw [if_pos huri, if_pos huri]
      · rw [if_neg huri] at h
        rw [if_neg huri, if_neg huri]
        cases hpath : s.jail.resolve s.cwd base request.target with
        | error violation =>
          rw [hpath] at h
          cases h _ rfl
        | ok path =>
          rw [hjail.resolve hpath]
          rfl

/-- Where no limit is met, the same takes the place of an include under looser ones. -/
theorem Context.resolve_withLimits {c : Context} {d : Include} {origin : Origin}
    (h : ∀ lines after, c.resolve s d origin = .ok (lines, after) →
      ∀ p ∈ after.journal.diagnostics, ¬ p.MeetsLimit) :
    c.resolve (s.withLimits depth mode includeRoot jail) d origin = c.resolve s d origin := by
  have hdirective : Resolution.ofDirective (s.withLimits depth mode includeRoot jail) c.directories
      c.attributes d origin = Resolution.ofDirective s c.directories c.attributes d origin := by
    unfold resolve Resolution.ofDirective at h
    unfold Resolution.ofDirective
    cases hrequest : IncludeRequest.ofDirective c.attributes d origin with
    | error problem => rfl
    | ok request =>
      rw [hrequest] at h
      dsimp only at h ⊢
      have hbase : Resolution.baseDirectory (s.withLimits depth mode includeRoot jail)
          c.directories origin = Resolution.baseDirectory s c.directories origin := rfl
      rw [hbase, Search.ofRequest_withLimits mode includeRoot hdepth hjail]
      · rfl
      · -- a problem with a limit would be in the journal
        intro problem hproblem
        rw [hproblem] at h
        refine eq_false_of_ne_true fun hlimit => h _ _ rfl _ ?_
          (problem.meetsLimit hlimit s.options request.directive request.origin)
        simp [Journal.diagnostics, Resolution.ofFinding, Event.diagnostic?]
  unfold resolve
  rw [hdirective]

end Looser

/-! ## What is in the journal -/

namespace Context

variable {setting : Setting} {c after : Context} {origin : Origin}

theorem journal_stays_log (c : Context) (event : Event) :
    c.journal.toList <+: (c.log event).journal.toList := by
  rw [log, Array.toList_push]
  exact List.prefix_append _ _

theorem journal_stays_reportAll (c : Context) (problems : List (String × Origin)) :
    c.journal.toList <+: (c.reportAll problems).journal.toList := by
  induction problems generalizing c with
  | nil => exact List.prefix_refl _
  | cons problem problems ih => exact (c.journal_stays_log _).trans (ih _)

theorem journal_stays_afterEntry (c : Context) (e : AttributeEntry) :
    c.journal.toList <+: (c.afterEntry e).journal.toList := by
  unfold afterEntry
  split
  · split
    · exact List.prefix_refl _
    · exact c.journal_stays_log _
  · exact c.journal_stays_log _

theorem journal_stays_afterClosing (c : Context) (d : Closing) (origin : Origin) :
    c.journal.toList <+: (c.afterClosing d origin).journal.toList := by
  unfold afterClosing
  split
  · exact List.prefix_refl _
  · exact c.journal_stays_log _

theorem journal_stays_judge {d : Opening} {active : Bool}
    (h : c.judge setting d origin = .ok (active, after)) :
    c.journal.toList <+: after.journal.toList := by
  unfold judge at h
  split at h
  · cases h
    exact List.prefix_refl _
  · cases h
  · cases h
    exact c.journal_stays_log _

theorem journal_stays_judgeWithin {d : Opening} {active : Bool}
    (h : c.judgeWithin setting d origin = .ok (active, after)) :
    c.journal.toList <+: after.journal.toList := by
  unfold judgeWithin at h
  split at h
  · exact journal_stays_judge h
  · cases h
    exact List.prefix_refl _

theorem journal_stays_resolve {d : Include} {lines : List Line}
    (h : c.resolve setting d origin = .ok (lines, after)) :
    c.journal.toList <+: after.journal.toList := by
  unfold resolve at h
  split at h
  · cases h
  · cases h
    rw [Array.toList_appendList]
    exact List.prefix_append _ _

end Context

namespace State

variable {setting : Setting} {s t : State} {line : Line} {rest : List Line}

/-- A step adds to the journal. -/
theorem Rule.journal_stays (h : Rule setting s line rest t) :
    s.journal.toList <+: t.journal.toList := by
  cases h with
  | plain | inlineRewritten | inlineKept => exact List.prefix_refl _
  | entry e => exact s.toContext.journal_stays_afterEntry e
  | inclusion _ _ _ _ resolved => exact Context.journal_stays_resolve resolved
  | closingDropped d | closingKept d => exact s.toContext.journal_stays_afterClosing d line.origin
  | inlineTrue _ _ c _ _ _ judged | inlineFalse _ _ c _ _ _ judged
  | blockTrue _ c _ _ _ judged =>
    show s.journal.toList <+: c.journal.toList
    exact Context.journal_stays_judge judged
  | blockFalse d c _ _ _ judged =>
    refine (Context.journal_stays_judge judged).trans ?_
    have hproblems := c.journal_stays_reportAll
      (problemsIn rest (BlockEnd.find d.target rest).problems)
    cases hlength : (BlockEnd.find d.target rest).length with
    | some n =>
      rw [skip_of_some hlength]
      exact hproblems
    | none =>
      rw [skip_of_none hlength]
      exact hproblems.trans (Context.journal_stays_log _ _)
  | blockKept _ _ c _ _ _ judged =>
    show s.journal.toList <+: c.journal.toList
    exact Context.journal_stays_judgeWithin judged

/-- What is in the journal stays there. -/
theorem Leads.journal_stays (h : Leads setting s t) : s.journal.toList <+: t.journal.toList := by
  induction h with
  | refl => exact List.prefix_refl _
  | step after _ ih =>
    obtain ⟨_, _, -, hrule⟩ := after.rule
    exact hrule.journal_stays.trans ih

/-- What is found wrong on the way is in the journal of the reduction. -/
theorem mem_diagnostics_of_leads {file : String} {attributes : AttributeSet} {b : Buffer}
    {p : Diagnostic} (h : Leads setting (Loop.start setting file attributes b).state s)
    (hp : p ∈ s.journal.diagnostics) : p ∈ (b.journal setting file attributes).diagnostics := by
  have hstays : ∀ {j k : Journal}, j.toList <+: k.toList → p ∈ j.diagnostics → p ∈ k.diagnostics :=
    fun hjk hj => (hjk.filterMap Event.diagnostic?).subset hj
  -- whether the run ends or is interrupted, its journal goes on from that of the state
  rw [Buffer.journal, Buffer.reduce, Loop.run_eq, run_of_leads h]
  cases hrun : s.run setting with
  | ok ended =>
    obtain ⟨lines, c⟩ := ended
    have hlast := hstays (leads_of_run hrun).journal_stays hp
    exact hstays (c.journal_stays_reportAll _) hlast
  | error i =>
    obtain ⟨u, hleads, herror⟩ := leads_of_run_error hrun
    show p ∈ i.journal.diagnostics
    rw [diagnostics_of_step_error herror]
    exact hstays hleads.journal_stays hp

end State

/-! ## Reductions under looser limits -/

/-- A reduction that meets no limit comes to the same under looser ones: with a greater depth of
includes, under a policy that is less strict, and with one more directory to include from. It ends
with the same lines, each of the same origin, with the same journal and the same attributes, or is
interrupted alike. -/
theorem Buffer.reduce_loosened (options : Options) (evaluator : Evaluator) (registry : Registry)
    (files : FileTree) (cwd jailDirectory rootDirectory file : String) (attributes : AttributeSet)
    (b : Buffer) (names : CharacterNames) {depth : Choice Nat} {mode : SafeMode}
    {includeRoot : Option String}
    (hdepth : options.maxIncludeDepth.meaning ≤ depth.meaning)
    (hmode : mode.strictness ≤ options.safeMode.strictness)
    (hroot : options.safeMode = .safe → mode = .safe →
      ∀ dir, options.includeRoot = some dir → includeRoot = some dir) :
    let setting :=
      Setting.jailed options evaluator registry files cwd jailDirectory rootDirectory names
    let looser := Setting.jailed
      { options with maxIncludeDepth := depth, safeMode := mode, includeRoot := includeRoot }
      evaluator registry files cwd jailDirectory rootDirectory names
    (∀ p ∈ (b.journal setting file attributes).diagnostics,
        ¬ p.ExceedsDepth ∧ ¬ p.ViolatesJail) →
      b.reduce looser file attributes = b.reduce setting file attributes := by
  intro setting looser hquiet
  let jail := Jail.of mode cwd (some jailDirectory) includeRoot
  have hlooser : looser = setting.withLimits depth mode includeRoot jail := rfl
  have hjail : setting.jail.Loosens jail := by
    refine ⟨rfl, hmode, fun hsafe hsafe' dir hdir => ?_⟩
    obtain ⟨given, hgiven, rfl⟩ := Option.map_eq_some_iff.1 hdir
    have hkept := hroot hsafe hsafe' given hgiven
    exact congrArg (Option.map (Path.absolute cwd)) hkept
  have hrun : (Loop.start setting file attributes b).state.run looser =
      (Loop.start setting file attributes b).state.run setting := by
    refine State.run_congr fun s hleads => ?_
    refine State.step_congr rfl rfl fun line rest d hpending hd => ?_
    rw [hlooser]
    refine Context.resolve_withLimits mode includeRoot hdepth hjail ?_
    intro lines after hresolved p hp
    -- the state after the include is reached, too
    have hafter : State.After setting ((s.withContext after).await (lines ++ rest)) s := by
      rw [State.After, State.step_of_include setting hpending hd, hresolved]
      rfl
    obtain ⟨hexceeds, hviolates⟩ :=
      hquiet p (State.mem_diagnostics_of_leads (hleads.trans hafter.leads) hp)
    rintro (h | h)
    · exact hexceeds h
    · exact hviolates h
  rw [Buffer.reduce, Buffer.reduce, Loop.run_eq, Loop.run_eq]
  exact congrArg (Except.map fun ended : List Line × Context =>
    Result.ofRun setting file ended.1 ended.2) hrun

/-- In strict mode and with a depth of one, a document in the jail that includes a file beside it:
it comes to the same in safe mode, with a depth of two and with another directory to include
from. -/
theorem Buffer.reduce_loosened_strict :
    let options : Options := { safeMode := .strict, maxIncludeDepth := .ofNat 1 }
    let depth : Choice Nat := .ofNat 2
    let files : FileTree := ⟨[(["jail"], .directory), (["jail", "b"], .file [121])]⟩
    let setting := Setting.jailed options .standard {} files "/" "/jail" "/jail"
    let looser := Setting.jailed
      { options with maxIncludeDepth := depth, safeMode := .safe, includeRoot := some "/other" }
      .standard {} files "/" "/jail" "/jail"
    let b : Buffer := ⟨[⟨"include::b[]", { file := "a", line := 1 }⟩]⟩
    options.maxIncludeDepth.meaning ≤ depth.meaning ∧
      SafeMode.safe.strictness ≤ options.safeMode.strictness ∧
      (options.safeMode = .safe → SafeMode.safe = .safe →
        ∀ dir, options.includeRoot = some dir → some "/other" = some dir) ∧
      (∀ p ∈ (b.journal setting "a" {}).diagnostics, ¬ p.ExceedsDepth ∧ ¬ p.ViolatesJail) ∧
      ∃ result journal, b.reduce setting "a" {} = .ok (result, journal) ∧
        result.lines = [⟨"y", ⟨"/jail/b", 1, [⟨"a", 1⟩]⟩⟩] ∧
        b.reduce looser "a" {} = .ok (result, journal) := by
  intro options depth files setting looser b
  have hwithin : ((Loop.start setting "a" {} b).state.runWithin setting 3).map
      (fun ended => (ended.1, ended.2.finish.journal.diagnostics)) =
        some ([⟨"y", ⟨"/jail/b", 1, [⟨"a", 1⟩]⟩⟩], []) := by
    decide +kernel
  obtain ⟨⟨lines, c⟩, hrun, hended⟩ := Option.map_eq_some_iff.1 hwithin
  obtain ⟨hlines, hdiagnostics⟩ := Prod.mk.inj hended
  have hreduce := Buffer.reduce_of_runWithin 3 hrun
  have hquiet : ∀ p ∈ (b.journal setting "a" {}).diagnostics,
      ¬ p.ExceedsDepth ∧ ¬ p.ViolatesJail := by
    have hnone : (b.journal setting "a" {}).diagnostics = [] := by
      rw [Buffer.journal, hreduce]
      exact hdiagnostics
    rw [hnone]
    exact List.forall_mem_nil _
  have hdepth : options.maxIncludeDepth.meaning ≤ depth.meaning := by
    decide
  have hmode : SafeMode.safe.strictness ≤ options.safeMode.strictness := by
    decide
  have hroot : options.safeMode = .safe → SafeMode.safe = .safe →
      ∀ dir, options.includeRoot = some dir → some "/other" = some dir := by
    intro hsafe
    cases hsafe
  have hsame := Buffer.reduce_loosened options .standard {} files "/" "/jail" "/jail" "a" {} b
    .unknown hdepth hmode hroot hquiet
  exact ⟨hdepth, hmode, hroot, hquiet, _, _, hreduce, hlines, hsame.trans hreduce⟩

end Transclude
